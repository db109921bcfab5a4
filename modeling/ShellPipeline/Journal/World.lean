import ShellPipeline.Effect
import ShellPipeline.Environment
import ShellPipeline.Journal
import ShellPipeline.Journal.Rotation

/-!
# The world of a run

What a run changes: the tree of files, the journal, and what has been written to the two streams.
The effects of a step are carried out on it one after the other; a record is delivered as the
journal decides, and the console of the journal is the error stream.

A line may not get into the file of the journal. That is a mishap: the run goes on, and it is
written about on the error stream as well, but in words that are not looked into.

* `World` — the state;
* `World.setUp` — setting up the journal;
* `World.perform` — carrying out effects.
-/

namespace ShellPipeline

/-- **What a run changes.** -/
structure World where
  /-- The tree of files. -/
  tree : FileTree
  /-- The journal. -/
  journal : Journal
  /-- The output stream so far. -/
  output : String
  /-- The error stream so far, without the mishaps. -/
  errors : String
  /-- Why lines did not get into the file of the journal, one for each of them. -/
  mishaps : List PathFault

namespace World

/-- The world at the beginning of a run. -/
def start (tree : FileTree) : World := ⟨tree, .initial, "", "", []⟩

/-- Writes to the error stream. -/
def report (world : World) (text : String) : World := { world with errors := world.errors ++ text }

/-- One delivery. -/
def deliver (world : World) : Delivery → World
  | .file path line =>
    let (tree, fault?) := world.tree.writeLine path line
    { world with tree := tree, mishaps := world.mishaps ++ fault?.toList }
  | .console text => world.report text

/-- Hands a record to the journal. -/
def log (clock : String) (world : World) (record : Record) : World :=
  (world.journal.deliveries clock record).foldl deliver world

/-- Carries out one effect. -/
def performOne (clock : String) (world : World) : Effect → World
  | .print text => { world with output := world.output ++ text }
  | .report text => world.report text
  | .log record => world.log clock record

/-- **Carries out effects** in order. -/
def perform (clock : String) (world : World) (effects : List Effect) : World :=
  effects.foldl (performOne clock) world

@[simp] theorem perform_nil (clock : String) (world : World) : world.perform clock [] = world := rfl

@[simp] theorem perform_cons (clock : String) (world : World) (effect : Effect)
    (rest : List Effect) :
    world.perform clock (effect :: rest) = (world.performOne clock effect).perform clock rest := rfl

/-- Effects carried out in two goes are carried out. -/
theorem perform_append (clock : String) (world : World) (a b : List Effect) :
    world.perform clock (a ++ b) = (world.perform clock a).perform clock b := List.foldl_append

/-- The name of the journal's file. -/
def journalName : String := "pipeparse.log"

/-- **Sets up the journal** in a directory, which is made if it is missing. The result is the path
of its file. A fault leaves the journal as it was, though directories may have been made. -/
def setUp (world : World) (cwd : List String) (level : String) (dir : Option Path)
    (consoleLevel : String) : World × Except PathFault Path :=
  let dir := dir.getD ((Path.mk .single cwd).child "logs")
  match world.tree.makeDirectories cwd dir with
  | (tree, some fault) => ({ world with tree := tree }, .error fault)
  | (tree, none) =>
    let path := dir.child journalName
    let file := path.absolute cwd
    match tree.openToAppend cwd file with
    | .error fault => ({ world with tree := tree }, .error fault)
    | .ok (tree, _) =>
      let journal := Journal.withHandlers file (levelNamed level Level.info)
        (levelNamed consoleLevel Level.warning)
      ({ world with tree := tree, journal := journal }, .ok path)

end World

end ShellPipeline
