import ShellPipeline.Command
import ShellPipeline.Journal.World
import ShellPipeline.Repl
import ShellPipeline.Settings.Load

/-!
# The program

A run reads the program's own options, loads the settings, sets up the journal, reads what belongs
to the command, and carries the command out. Each step can end the run. A fault in the program's own
options, or in the name of the command, is found before anything is touched; one in what belongs to
the command only when the journal is there.

* `Settings.lines` — the settings as text, line by line;
* `Command.effects`, `Command.accepts` — what a command does, and whether it succeeds;
* `Ending` — how a run ends;
* `Environment.start` — the run up to the command;
* `Environment.run` — a whole run.
-/

namespace ShellPipeline

/-! ### Commands -/

/-- The version of the program. -/
def versionText : String := "0.1.0"

/-- A truth value as the settings show it. -/
def truthText (b : Bool) : String := if b then "True" else "False"

/-- **The settings as text**, line by line. -/
def Settings.lines (settings : Settings) : List String :=
  ["debug: " ++ truthText settings.debug,
    "paths:",
    "  base_dir: " ++ settings.baseDir.text,
    "  logs_dir: " ++ settings.logsDir.text,
    "parser:",
    "  strict: " ++ truthText settings.strict,
    "display:",
    "  show_tokens: " ++ truthText settings.showTokens,
    "  prompt: " ++ Text.quote settings.prompt,
    "logging:",
    "  console_level: " ++ settings.consoleLevel]

/-- **What a command does.** The settings decide what the command leaves open; the input is read by
the dialogue alone. -/
def Command.effects (settings : Settings) (input : String) : Command → List Effect
  | version => [.echo versionText]
  | parse line strict tokens =>
    runLine (strict.getD settings.strict) (tokens.getD settings.showTokens) line
  | repl => runDialogue settings input
  | showSettings => settings.lines.map .echo

/-- Whether a command succeeds. Only the parsing of one line can fail: if a segment is rejected. -/
def Command.accepts (settings : Settings) : Command → Bool
  | parse line strict _ => (ShellPipeline.parse (strict.getD settings.strict) line).ok
  | _ => true

/-! ### Runs -/

/-- **How a run ends.** -/
inductive Ending where
  /-- The command succeeded. -/
  | accepted
  /-- The command did not succeed. -/
  | rejected
  /-- There is something wrong with the arguments. -/
  | misused (fault : UsageFault)
  /-- The run cannot start. -/
  | stopped (fault : LoadFault)
deriving DecidableEq, Repr

/-- The exit status of a run. -/
def Ending.status : Ending → Nat
  | accepted => 0
  | rejected => 1
  | misused _ => 2
  | stopped _ => 1

/-- What is written about an ending to the error stream. A run that cannot start is left to whoever
started it. -/
def Ending.notice : Ending → String
  | misused fault => "error: " ++ fault.message ++ "\n"
  | _ => ""

/-- A run that has come to its command. -/
structure Started where
  /-- The settings of the run. -/
  settings : Settings
  /-- The command. -/
  verb : Verb
  /-- What belongs to it, not yet read. -/
  arguments : List String

/-- The level of the journal's file. -/
def Settings.fileLevel (settings : Settings) : String := if settings.debug then "DEBUG" else "INFO"

/-- Loads the settings and sets up the journal. -/
def Environment.prepare [Limits] (env : Environment) (invocation : Invocation) :
    World × Except LoadFault Settings :=
  let loaded := env.load invocation.config invocation.baseDir
  let world := (World.start env.tree).report loaded.report
  match loaded.settings with
  | .error fault => (world, .error fault)
  | .ok settings =>
    match world.setUp env.cwd settings.fileLevel settings.logsDir settings.consoleLevel with
    | (world, .error fault) => (world, .error (.path fault))
    | (world, .ok _) => (world, .ok settings)

/-- **The run up to the command.** -/
def Environment.start [Limits] (env : Environment) (arguments : List String) :
    World × Except Ending Started :=
  let world := World.start env.tree
  match Invocation.ofArguments arguments with
  | .error fault => (world, .error (.misused fault))
  | .ok invocation =>
    if invocation.hasNull then (world, .error (.stopped (.path .nullCharacter)))
    else
      match invocation.verb with
      | .error fault => (world, .error (.misused fault))
      | .ok (verb, arguments) =>
        match env.prepare invocation with
        | (world, .error fault) => (world, .error (.stopped fault))
        | (world, .ok settings) => (world, .ok ⟨settings, verb, arguments⟩)

/-- The run from the command on. -/
def Started.finish (started : Started) (clock input : String) (world : World) : World × Ending :=
  match Command.read started.verb started.arguments with
  | .error fault => (world, .misused fault)
  | .ok command =>
    (world.perform clock (command.effects started.settings input),
      if command.accepts started.settings then .accepted else .rejected)

/-- **A whole run**, for the text of its input and its arguments. -/
def Environment.run [Limits] (env : Environment) (input : String) (arguments : List String) :
    World × Ending :=
  let text := String.ofList (Text.unifyNewlines input.toList)
  let (world, ending) :=
    match env.start arguments with
    | (world, .error ending) => (world, ending)
    | (world, .ok started) => started.finish env.clock text world
  (world.report ending.notice, ending)

end ShellPipeline
