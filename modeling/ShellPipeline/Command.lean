import ShellPipeline.Options
import ShellPipeline.Path

/-!
# Commands

The first arguments of a run are options of the program itself; they end at the first word, which
names a command. What follows belongs to the command and is read only when the program has been
started, so that a fault in it is found late.

* `Invocation` — the options of the program and the words behind them;
* `Verb` — the names of the commands;
* `Command`, `Command.read` — a command with what belongs to it.
-/

namespace ShellPipeline

/-! ### The program's own options -/

/-- The program's own options. -/
def programForms : List OptionForm := [.valued "--config" (some 'c'), .valued "--base-dir" none]

/-- **The options of the program and the words behind them.** -/
structure Invocation where
  /-- The configuration file that is named. -/
  config : Option Path
  /-- The base directory that is named. -/
  baseDir : Option Path
  /-- The command and what belongs to it. -/
  words : List String
deriving DecidableEq, Repr

/-- The invocation that a list of arguments spells. -/
def Invocation.ofArguments (arguments : List String) : Except UsageFault Invocation :=
  (readArguments programForms false arguments).map fun reading =>
    { config := (reading.value? "--config").map Path.ofString
      baseDir := (reading.value? "--base-dir").map Path.ofString
      words := reading.words }

/-- Whether a path of the invocation can lead nowhere, whatever the tree. -/
def Invocation.hasNull (invocation : Invocation) : Bool :=
  (invocation.config.toList ++ invocation.baseDir.toList).any (·.hasNull)

/-! ### Commands -/

/-- The names of the commands. -/
inductive Verb where
  /-- Shows the version. -/
  | version
  /-- Parses one line. -/
  | parse
  /-- Parses the lines of the input. -/
  | repl
  /-- Has to do with the settings. -/
  | config
deriving DecidableEq, Repr

/-- The command of a name. -/
def Verb.ofName? : String → Option Verb
  | "version" => some .version
  | "parse" => some .parse
  | "repl" => some .repl
  | "config" => some .config
  | _ => none

/-- **A command with what belongs to it.** -/
inductive Command where
  /-- Shows the version. -/
  | version
  /-- Parses one line; the strict rule and the showing of tokens may be chosen. -/
  | parse (line : String) (strict tokens : Option Bool)
  /-- Parses the lines of the input. -/
  | repl
  /-- Shows the settings. -/
  | showSettings
deriving DecidableEq, Repr

/-- The command that the words of an invocation name, with the arguments behind it. -/
def Invocation.verb (invocation : Invocation) : Except UsageFault (Verb × List String) :=
  match invocation.words with
  | [] => .error .missingCommand
  | name :: arguments =>
    match Verb.ofName? name with
    | none => .error (.unknownCommand name)
    | some verb => .ok (verb, arguments)

namespace Command

/-- A command without options, to which nothing may belong. -/
def readBare (command : Command) (arguments : List String) : Except UsageFault Command := do
  match (← readArguments [] true arguments).words with
  | [] => .ok command
  | word :: _ => .error (.extraWord word)

/-- The options of parsing one line. -/
def parseForms : List OptionForm :=
  [.switch "--strict", .switch "--no-strict", .switch "--tokens", .switch "--no-tokens"]

/-- The command to parse one line. -/
def readParse (arguments : List String) : Except UsageFault Command := do
  let reading ← readArguments parseForms true arguments
  match reading.words with
  | [] => .error .missingLine
  | [line] =>
    .ok (.parse line (reading.choice? "--strict" "--no-strict")
      (reading.choice? "--tokens" "--no-tokens"))
  | _ :: word :: _ => .error (.extraWord word)

/-- A command that has to do with the settings. -/
def readConfig (arguments : List String) : Except UsageFault Command := do
  match (← readArguments [] false arguments).words with
  | [] => .error .missingCommand
  | "show" :: rest => readBare .showSettings rest
  | name :: _ => .error (.unknownCommand name)

/-- **The command that arguments spell.** -/
def read (verb : Verb) (arguments : List String) : Except UsageFault Command :=
  match verb with
  | .version => readBare .version arguments
  | .parse => readParse arguments
  | .repl => readBare .repl arguments
  | .config => readConfig arguments

end Command

example : (Command.read .parse ["--strict", "--", "-l | -a"]).toOption =
    some (.parse "-l | -a" (some true) none) := by decide +kernel

end ShellPipeline
