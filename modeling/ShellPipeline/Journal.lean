import ShellPipeline.FileTree
import ShellPipeline.Record
import ShellPipeline.Text.UpperCase

/-!
# The journal

The journal takes records and delivers them: to a file, to the console, or not at all. Before it is
set up, the text of a warning or anything more urgent goes to the console as it is. Setting it up
gives it one file and one console, each with a level of its own, in place of all it had before; if
the file cannot be opened, it stays as it was.

A record passes if it is at least as urgent as the journal's own level, and is then offered to every
handler, which takes it if it is at least as urgent as the handler's level. The journal's own level
is the lower of the two, so it holds back nothing that a handler would take. A record without
urgency, at level zero or below, never passes.

* `Handler`, `Journal` — where records go;
* `levelNamed` — the level of a name;
* `Journal.deliveries` — what becomes of a record;
* `Journal.withHandlers` — a journal that has been set up.
-/

namespace ShellPipeline

/-! ### Names of levels -/

/-- The names that are known, with their levels. -/
def levelNames : List (String × Level) :=
  [("CRITICAL", Level.critical), ("FATAL", Level.critical), ("ERROR", Level.error),
    ("WARNING", Level.warning), ("WARN", Level.warning), ("INFO", Level.info),
    ("DEBUG", Level.debug), ("NOTSET", 0)]

/-- **The level of a name**, in letters of either case; a name that is not known has the level
`default`. -/
def levelNamed (name : String) (default : Level) : Level :=
  (levelNames.lookup (Text.upperCase name)).getD default

/-- The name of a level, as records show it. -/
def Level.name (level : Level) : String :=
  if level = Level.critical then "CRITICAL"
  else if level = Level.error then "ERROR"
  else if level = Level.warning then "WARNING"
  else if level = Level.info then "INFO"
  else if level = Level.debug then "DEBUG"
  else if level = 0 then "NOTSET"
  else "Level " ++ toString level

/-! ### Lines -/

/-- The name of the part of the program that a record comes from; the root has one, too. -/
def Record.sourceName (record : Record) : String :=
  if record.source.isEmpty then "root" else record.source

/-- A text filled up with spaces on the right. -/
def padRight (width : Nat) (s : String) : String :=
  s ++ String.ofList (List.replicate (width - s.length) ' ')

/-- A record as a line of the file. -/
def Record.fileLine (clock : String) (record : Record) : String :=
  clock ++ " | " ++ padRight 8 record.level.name ++ " | " ++ record.sourceName ++ " | " ++
    record.message ++ "\n"

/-- A record as a line of the console. -/
def Record.consoleLine (record : Record) : String :=
  record.level.name ++ ": " ++ record.sourceName ++ ": " ++ record.message ++ "\n"

/-! ### Handlers -/

/-- Where records go, and from which level on. -/
inductive Handler where
  /-- To the file at a path. -/
  | file (path : Path) (level : Level)
  /-- To the console. -/
  | console (level : Level)
deriving DecidableEq, Repr

/-- The level from which on a handler takes records. -/
def Handler.level : Handler → Level
  | file _ level => level
  | console level => level

/-- **The journal.** -/
structure Journal where
  /-- The level below which every record is held back. -/
  level : Level
  /-- Where records go. -/
  handlers : List Handler
deriving DecidableEq, Repr

/-- What becomes of a record in one place. -/
inductive Delivery where
  /-- A line goes to the file at a path. -/
  | file (path : Path) (line : String)
  /-- A text goes to the console. -/
  | console (text : String)
deriving DecidableEq, Repr

/-- What a handler delivers of a record. -/
def Handler.deliver? (clock : String) (record : Record) (handler : Handler) : Option Delivery :=
  if record.level < handler.level then none
  else
    match handler with
    | .file path _ => some (.file path (record.fileLine clock))
    | .console _ => some (.console record.consoleLine)

namespace Journal

/-- The journal before it is set up. -/
def initial : Journal := ⟨Level.warning, []⟩

/-- Whether a record of a level passes. -/
def passes (journal : Journal) (level : Level) : Bool := 0 < level && journal.level ≤ level

/-- **What becomes of a record.** -/
def deliveries (journal : Journal) (clock : String) (record : Record) : List Delivery :=
  if journal.passes record.level then
    if journal.handlers.isEmpty then
      if Level.warning ≤ record.level then [.console (record.message ++ "\n")] else []
    else journal.handlers.filterMap (·.deliver? clock record)
  else []

/-- **The journal that has been set up** with a file and the two levels. -/
def withHandlers (file : Path) (fileLevel consoleLevel : Level) : Journal where
  level := min fileLevel consoleLevel
  handlers := [.file file fileLevel, .console consoleLevel]

end Journal

end ShellPipeline
