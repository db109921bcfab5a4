import ShellPipeline.Document.Toml
import ShellPipeline.Document.Yaml
import ShellPipeline.Environment

/-!
# Reading a configuration file

A file whose name ends in `.toml`, in letters of either case, holds a TOML document; any other holds
a YAML document. The document has to be a mapping. A YAML document that counts as false is taken for
an empty one.

* `ReadFault` — why a file gives no document;
* `Environment.readConfig` — the document of a file.
-/

namespace ShellPipeline

open Document (Graph DocumentFault ValueFault)

/-- The formats of a configuration file. -/
inductive ConfigFormat where
  /-- TOML. -/
  | toml
  /-- YAML. -/
  | yaml
deriving DecidableEq, Repr

/-- **Why a file gives no document.** -/
inductive ReadFault where
  /-- The file cannot be read. -/
  | path (fault : PathFault)
  /-- The bytes of the file are no text. -/
  | notText
  /-- The text breaks the rules of its format. -/
  | malformed (format : ConfigFormat)
  /-- A value of the document cannot be made. -/
  | value (fault : ValueFault)
  /-- The document is not a mapping. -/
  | notMapping (file : String)
deriving DecidableEq, Repr

/-- The wording of a fault. How a broken rule is worded is not looked into. -/
def ReadFault.message : ReadFault → String
  | path fault => fault.message
  | notText => "<parse error>"
  | malformed _ => "<parse error>"
  | value fault => fault.message
  | notMapping file => "YAML config must be a mapping at top-level: " ++ file

/-- Whether a run goes on with the default settings after a fault. A few values cannot be made in a
way that is not expected; those end the run. -/
def ReadFault.isExpected : ReadFault → Bool
  | value .notMoment | value .momentInMapping | value .tooDeep => false
  | value (.notTruth _) | value .emptyNumber | value .tooLarge => false
  | value (.notCharacter n) => n < Nat.pow 2 31
  | _ => true

/-- The format that the name of a file tells. -/
def formatOf (path : Path) : ConfigFormat :=
  if String.ofList (path.suffix.toList.map Char.toLower) = ".toml" then .toml else .yaml

/-- A fault of a document as one of the file that it is in. -/
def ReadFault.ofDocument (format : ConfigFormat) : DocumentFault → ReadFault
  | .notText => notText
  | .malformed => malformed format
  | .value fault => value fault

/-- The document of a TOML file. It is decoded as a whole before it is read. -/
def readToml [Limits] (content : ByteArray) : Except ReadFault Graph :=
  match String.fromUTF8? content with
  | none => .error .notText
  | some text =>
    match Document.Toml.read text with
    | .ok document => .ok (.ofValue document)
    | .error fault => .error (.ofDocument .toml fault)

/-- **The mapping of a YAML document.** A document that counts as false is an empty mapping. -/
def mappingOf (path : Path) (document : Graph) : Except ReadFault Graph :=
  if !document.truth then .ok (.ofValue (.map []))
  else if document.isMap then .ok document
  else .error (.notMapping path.text)

/-- The document of a YAML file. -/
def readYaml [Limits] (path : Path) (content : ByteArray) : Except ReadFault Graph :=
  match Document.Yaml.readFile content with
  | .ok document => mappingOf path document
  | .error fault => .error (.ofDocument .yaml fault)

/-- **The document of a configuration file.** -/
def Environment.readConfig [Limits] (env : Environment) (path : Path) : Except ReadFault Graph :=
  match env.tree.read env.cwd path with
  | .error fault => .error (.path fault)
  | .ok content =>
    match formatOf path with
    | .toml => readToml content
    | .yaml => readYaml path content

end ShellPipeline
