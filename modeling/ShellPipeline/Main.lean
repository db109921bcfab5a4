import ShellPipeline.Program
import Std.Time.Format
import Std.Time.Zoned

/-!
# The command line

The program between the real streams and the real files. The part of the file system that a run can
touch is read into a tree, the run is worked out on the tree, and what has changed is written back.
The dialogue is carried on line by line, so that each reply is there before the next line is asked
for.
-/

namespace ShellPipeline.Terminal

/-- The path of a place. -/
def spell (place : List String) : String := "/" ++ "/".intercalate place

/-- What the disk has at a place. -/
def look? (place : List String) : IO (Option Node) := do
  try
    return some (.file (← IO.FS.readBinFile (spell place)))
  catch _ =>
    try
      let _ ← IO.FS.Handle.mk (spell place ++ "/.") .read
      return some .directory
    catch _ => return none

/-- Reads what the disk has at a path, and on the way to it, into a tree. -/
def observe (cwd : List String) (tree : FileTree) (path : Path) : IO FileTree := do
  let parts := path.absoluteParts cwd
  let mut tree := tree
  for length in List.range' 1 parts.length do
    let place := Path.normalParts (parts.take length)
    if (tree.node? place).isNone then
      match ← look? place with
      | some node => tree := tree.put place node
      | none => pure ()
  return tree

/-- The time, as the journal writes it. -/
def clock : IO String := do
  let now ← Std.Time.PlainDateTime.now
  return now.format "uuuu-MM-dd HH:mm:ss"

/-- The environment of the process, with no files yet. -/
def bareEnvironment : IO Environment := do
  return {
    tree := ⟨[]⟩
    cwd := (Path.ofString (← IO.currentDir).toString).parts
    home := (Path.ofString ((← IO.getEnv "HOME").getD "/")).parts
    configVariable := ← IO.getEnv "PIPEPARSE_CONFIG"
    clock := ← clock }

/-- Reads what the disk has below a place into a tree. -/
partial def observeBelow (tree : FileTree) (place : List String) : IO FileTree := do
  let entries ← try ((← IO.currentDir) / spell place).readDir catch _ => pure #[]
  entries.foldlM (fun tree entry => do
    let below := place ++ [entry.fileName]
    match ← look? below with
    | some node => observeBelow (tree.put below node) below
    | none => return tree) tree

/-- Reads what the disk has at the path of the journal's file, and where it is put aside, into a
tree. -/
def observeJournal (cwd : List String) (tree : FileTree) (file : Path) : IO FileTree := do
  let asides := [1, 2, 3].map fun number => (file.absolute cwd).aside number
  let tree ← (file :: asides).foldlM (observe cwd) tree
  -- a directory there can be moved, and what is in it is moved along
  asides.foldlM (fun tree path => observeBelow tree path.parts) tree

/-- The environment of the process, with the files that a run for these arguments can touch. -/
def environment (arguments : List String) : IO Environment := do
  let env ← bareEnvironment
  match Invocation.ofArguments arguments with
  | .error _ => return env
  | .ok invocation =>
    let configs := invocation.config.toList ++ env.candidates
    let env := { env with tree := ← configs.foldlM (observe env.cwd) env.tree }
    match (env.load invocation.config invocation.baseDir).settings with
    | .error _ => return env
    | .ok settings =>
      let file := settings.logsDir.child World.journalName
      return { env with tree := ← observeJournal env.cwd env.tree file }

/-- Writes a file, behind its end where that is enough. -/
def store (place : List String) (old new : ByteArray) : IO Unit := do
  if new.extract 0 old.size == old then
    let file ← IO.FS.Handle.mk (spell place) .append
    file.write (new.extract old.size new.size)
  else IO.FS.writeBinFile (spell place) new

/-- Nodes with those that lie in others behind them. -/
def outerFirst (nodes : List (List String × Node)) : List (List String × Node) :=
  nodes.mergeSort fun a b => a.1.length ≤ b.1.length

/-- Brings the disk from one tree to another. -/
def storeChanges (before after : FileTree) : IO Unit := do
  for (place, node) in (outerFirst before.nodes).reverse do
    match node, after.node? place with
    | .file _, some (.file _) | .directory, some .directory => pure ()
    | .file _, _ => IO.FS.removeFile (spell place)
    | .directory, _ => IO.FS.removeDir (spell place)
  for (place, node) in outerFirst after.nodes do
    match node, before.node? place with
    | .directory, some .directory => pure ()
    | .directory, _ => IO.FS.createDirAll (spell place)
    | .file new, some (.file old) => if new != old then store place old new
    | .file new, _ => IO.FS.writeBinFile (spell place) new

/-- Shows and stores what has happened since a tree was read, and clears the streams of the world.
-/
def settle (before : FileTree) (world : World) : IO World := do
  let output ← IO.getStdout
  output.putStr world.output
  output.flush
  (← IO.getStderr).putStr world.errors
  for fault in world.mishaps do
    IO.eprintln ("--- Logging error ---\n" ++ fault.message)
  storeChanges before world.tree
  return { world with output := "", errors := "", mishaps := [] }

/-- Carries out effects on the world and settles them. -/
def act (world : World) (effects : List Effect) : IO World := do
  settle world.tree (world.perform (← clock) effects)

/-- The next lines of the input; none at its end. -/
def nextLines : IO (List String) := do
  let text ← (← IO.getStdin).getLine
  return Text.lines (String.ofList (Text.unifyNewlines text.toList))

/-- Carries on the dialogue. Lines that have been read already come first. -/
partial def converse (settings : Settings) (read : List String) (world : World) : IO World := do
  let world ← act world [.echoPrompt settings.prompt]
  let lines ← if read.isEmpty then nextLines else pure read
  let answer := reply settings lines.head?
  let world ← act world answer.effects
  if answer.goesOn then converse settings lines.tail world
  else act world [.log dialogueRecord]

/-- Closes a run. -/
def close (before : FileTree) (world : World) (ending : Ending) : IO UInt32 := do
  let _ ← settle before (world.report ending.notice)
  match ending with
  | .stopped fault => IO.eprintln ("error: " ++ fault.message)
  | _ => pure ()
  return ending.status.toUInt32

/-- A run of the program. -/
def run (arguments : List String) : IO UInt32 := do
  let env ← environment arguments
  match env.start arguments with
  | (world, .error ending) => close env.tree world ending
  | (world, .ok started) =>
    let world ← settle env.tree world
    match Command.read started.verb started.arguments with
    | .ok .repl =>
      let after ← converse started.settings [] world
      close after.tree after .accepted
    | _ =>
      let (after, ending) := started.finish (← clock) "" world
      close world.tree after ending

end ShellPipeline.Terminal

/-- Runs the program. -/
def main (arguments : List String) : IO UInt32 := ShellPipeline.Terminal.run arguments
