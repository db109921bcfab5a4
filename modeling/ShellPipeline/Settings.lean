import ShellPipeline.Document.Graph
import ShellPipeline.Limits
import ShellPipeline.Path
import ShellPipeline.Text.UpperCase

/-!
# Settings

What a configuration sets, and the settings that a configuration document amounts to. A document is
a mapping with sections. Of it only six values count, five of them in a section: whether the strict
rule holds, whether tokens are shown, the prompt, the directory of the journal, the level of the
console, and whether details are kept. What is missing has a default, and so has everything in a
section that is not a mapping.

Any value can stand for a truth value or a text. The directory alone has to be a text, unless it
counts as false; then the default is taken.

A text may be torn (`Document.Wording`). The settings hold strings only, so where a text is torn
they stay a draft. This is no fault of the document, but it may lead to one: the way to the
directory of the journal is looked up, unless its path is absolute, and most torn names cannot be.

* `Settings` — the settings;
* `Picked`, `Picked.ofDocument` — what the six values say;
* `logsDirOf`, `lookUpFault?` — the directory of the journal, and why it may not be looked up;
* `DraftSettings.ofDocument` — the settings they amount to, with or without torn texts.
-/

namespace ShellPipeline

open Document (Graph Point Value Wording)

/-- **The settings of a run.** -/
structure Settings where
  /-- The directory that the others start from. -/
  baseDir : Path
  /-- The directory of the journal. -/
  logsDir : Path
  /-- Whether the first rejected segment ends a parse. -/
  strict : Bool
  /-- Whether the tokens of each segment are shown. -/
  showTokens : Bool
  /-- What is shown where a line is expected. -/
  prompt : String
  /-- The name of the level from which on records go to the console. -/
  consoleLevel : String
  /-- Whether the journal keeps details. -/
  debug : Bool
deriving DecidableEq, Repr

/-- Why a document does not amount to settings. -/
inductive SettingFault where
  /-- The directory of the journal is of a kind that is no path. -/
  | notPath (kind : String)
  /-- The directory of the journal is given as bytes. -/
  | bytesPath
  /-- There is a null character in a path that has to be resolved. -/
  | nullCharacter
  /-- From a position on there are halves of surrogate pairs in a path that has to be resolved, and
  the first of them cannot stand in a name. -/
  | notEncodable (position : Nat) (halves : List (Fin 0x800))
  /-- A whole number is too long to be written. -/
  | overlong
  /-- There are values inside each other beyond the limits of the run. -/
  | tooDeep
deriving DecidableEq, Repr

/-- The wording of a fault. -/
def SettingFault.message : SettingFault → String
  | notPath kind => "expected str, bytes or os.PathLike object, not " ++ kind
  | bytesPath =>
    "argument should be a str object or an os.PathLike object returning str, not <class 'bytes'>"
  | nullCharacter => "embedded null byte"
  | notEncodable position halves =>
    "'utf-8' codec can't encode character" ++
      (match halves with
      | [half] => " " ++ Wording.quote [.half half] ++ " in position " ++ toString position
      | _ => "s in position " ++ toString position ++ "-" ++
          toString (position + halves.length - 1)) ++
      ": surrogates not allowed"
  | overlong =>
    "Exceeds the limit (4300 digits) for integer string conversion; use " ++
      "sys.set_int_max_str_digits() to increase the limit"
  | tooDeep => "maximum recursion depth exceeded while getting the repr of an object"

/-- What a document says about the settings. -/
structure Picked where
  /-- Whether the strict rule holds. -/
  strict : Bool
  /-- Whether tokens are shown. -/
  showTokens : Bool
  /-- The prompt; none where the document is silent. -/
  prompt : Option Value
  /-- The directory of the journal as a text; none where the document is silent or its value counts
  as false. -/
  logs : Except SettingFault (Option Wording)
  /-- The level of the console; none where the document is silent. -/
  consoleLevel : Option Value
  /-- Whether details are kept. -/
  debug : Bool

/-- A value as a truth value; what is missing is false. -/
def truthOf (found : Option Graph) : Bool := (found.map (·.truth)).getD false

/-- A value as the text of a directory. What is missing or counts as false is no text, and any other
value has to be one. -/
def directoryText : Option Graph → Except SettingFault (Option Wording)
  | none => .ok none
  | some found =>
    if !found.truth then .ok none
    else
      match found.outermost with
      | .value (.text s) => .ok (some (.ofString s))
      | .value (.torn w) => .ok (some w.val)
      | .value (.bytes _) => .error .bytesPath
      | _ => .error (.notPath found.kindName)

/-- **What a document says about the settings.** -/
def Picked.ofDocument (document : Graph) : Picked where
  strict := truthOf ((document.sectionAt "parser").get? "strict")
  showTokens := truthOf ((document.sectionAt "display").get? "show_tokens")
  prompt := ((document.sectionAt "display").get? "prompt").map (·.value)
  logs := directoryText ((document.sectionAt "paths").get? "logs")
  consoleLevel := ((document.sectionAt "logging").get? "console_level").map (·.value)
  debug := truthOf (document.get? "debug")

/-! ### Texts -/

/-- A value as a text, with a default; none where the text is torn. -/
def plainOr [Limits] (default : String) : Option Value → Except SettingFault (Option String)
  | none => .ok (some default)
  | some (.text s) => .ok (some s)
  | some (.torn _) => .ok none
  | some value =>
    match value.writeFault? Limits.writing with
    | some .overlong => .error .overlong
    | some .tooDeep => .error .tooDeep
    | none => .ok (some value.plain)

/-! ### The directory of the journal -/

/-- A path below a base directory, resolved; an absolute one is left as it is. -/
def placeBelow (base path : Path) : Except SettingFault Path :=
  if path.isAbsolute then .ok path
  else if (base.join path).hasNull then .error .nullCharacter
  else .ok ((base.join path).resolve [])

/-- What is in the way of looking up a name, which starts at a position of the path. It cannot be
encoded, or there is a null character in it. -/
def nameFault? (start : Nat) (name : Wording) : Option SettingFault :=
  match Wording.halves (name.dropWhile Point.isEncodable) with
  | [] => if name.contains (.char '\x00') then some .nullCharacter else none
  | halves => some (.notEncodable (start + (name.takeWhile Point.isEncodable).length) halves)

/-- What is in the way of looking up some names, one after the other, behind names of which the
lengths are given, last to first. A pair of dots is not looked up; it takes the last name away. -/
def lookUpFault? : List Nat → List Wording → Option SettingFault
  | _, [] => none
  | lengths, name :: rest =>
    if name = .ofString ".." then lookUpFault? lengths.tail rest
    else
      (nameFault? (lengths.foldl (fun before length => before + length + 1) 1) name).or
        (lookUpFault? (name.length :: lengths) rest)

/-- The names between the slashes of a text, without the empty ones and the single dots. -/
def Document.Wording.names (w : Wording) : List Wording :=
  (w.splitOn (.char '/')).filter fun name => name ≠ [] ∧ name ≠ .ofString "."

/-- What is in the way of placing a torn path below a base directory. -/
def tornFault? (base : Path) (w : Wording) : Option SettingFault :=
  if w.head? = some (.char '/') then none
  else if base.hasNull then some .nullCharacter
  else lookUpFault? (base.parts.map String.length).reverse w.names

/-- **The directory of the journal**, for the text that names it; none where its path is torn. -/
def logsDirOf (base : Path) : Option Wording → Except SettingFault (Option Path)
  | none => .ok (some (base.child "logs"))
  | some w =>
    if w.IsWhole then (placeBelow base (.ofString w.string)).map some
    else
      match tornFault? base w with
      | some fault => .error fault
      | none => .ok none

/-! ### The settings -/

/-- **Settings of which a text may be torn.** It is missing then. -/
structure DraftSettings where
  /-- The directory that the others start from. -/
  baseDir : Path
  /-- The directory of the journal. -/
  logsDir? : Option Path
  /-- Whether the first rejected segment ends a parse. -/
  strict : Bool
  /-- Whether the tokens of each segment are shown. -/
  showTokens : Bool
  /-- What is shown where a line is expected. -/
  prompt? : Option String
  /-- The name of the level from which on records go to the console. -/
  consoleLevel? : Option String
  /-- Whether the journal keeps details. -/
  debug : Bool
deriving DecidableEq, Repr

namespace DraftSettings

/-- The settings that what a document says amounts to. The base directory has been resolved. -/
def ofPicked [Limits] (base : Path) (picked : Picked) : Except SettingFault DraftSettings := do
  let logsDir? ← logsDirOf base (← picked.logs)
  let prompt? ← plainOr "$ " picked.prompt
  let consoleLevel? ← plainOr "WARNING" picked.consoleLevel
  return {
    baseDir := base
    logsDir? := logsDir?
    strict := picked.strict
    showTokens := picked.showTokens
    prompt? := prompt?
    consoleLevel? := consoleLevel?.map Text.upperCase
    debug := picked.debug }

/-- **The settings that a document amounts to.** -/
def ofDocument [Limits] (base : Path) (document : Graph) : Except SettingFault DraftSettings :=
  ofPicked base (.ofDocument document)

/-- **The settings themselves**, if no text is torn. -/
def settings? (draft : DraftSettings) : Option Settings := do
  return {
    baseDir := draft.baseDir
    logsDir := ← draft.logsDir?
    strict := draft.strict
    showTokens := draft.showTokens
    prompt := ← draft.prompt?
    consoleLevel := ← draft.consoleLevel?
    debug := draft.debug }

end DraftSettings

example : (SettingFault.notEncodable 3 [0]).message =
    "'utf-8' codec can't encode character '\\ud800' in position 3: surrogates not allowed" := by
  decide +kernel

end ShellPipeline
