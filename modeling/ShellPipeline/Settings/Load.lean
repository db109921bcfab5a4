import ShellPipeline.Settings
import ShellPipeline.Settings.Discovery
import ShellPipeline.Settings.Reading

/-!
# Loading the settings

The configuration file is looked for and read, and the settings are made from its document. If the
file gives no document, that is reported and the settings are those of an empty one; no other file
is tried instead.

* `LoadFault` — why a run has no settings at all;
* `Loaded` — the settings, with what was reported on the way;
* `Environment.load` — the settings of a run.
-/

namespace ShellPipeline

open Document (Graph ValueFault)

/-- **Why a run has no settings.** -/
inductive LoadFault where
  /-- A place cannot be looked at. -/
  | path (fault : PathFault)
  /-- A value of the document cannot be made, in a way that is not expected. -/
  | value (fault : ValueFault)
  /-- The document does not amount to settings. -/
  | setting (fault : SettingFault)
  /-- The settings would hold a torn text. The run goes on with it; what it comes to is not looked
  into. -/
  | torn (draft : DraftSettings)
deriving DecidableEq, Repr

/-- The wording of a fault. -/
def LoadFault.message : LoadFault → String
  | path fault => fault.message
  | value fault => fault.message
  | setting fault => fault.message
  | torn _ => "<torn text>"

/-- What loading gives. -/
structure Loaded where
  /-- What was reported. -/
  report : String
  /-- The settings, or why there are none. -/
  settings : Except LoadFault Settings

/-- What is reported about a file that gives no document. -/
def loadReport (fault : ReadFault) : String := "Failed to load config: " ++ fault.message ++ "\n"

/-- The settings of a document, as what loading gives. -/
def Loaded.ofDocument [Limits] (report : String) (base : Path) (document : Graph) : Loaded where
  report := report
  settings :=
    match DraftSettings.ofDocument base document with
    | .error fault => .error (.setting fault)
    | .ok draft =>
      match draft.settings? with
      | some settings => .ok settings
      | none => .error (.torn draft)

/-- The base directory of a run, resolved: the one that is given, or the working directory. -/
def Environment.baseDir (env : Environment) (given : Option Path) : Except LoadFault Path :=
  let path := given.getD env.cwdPath
  if path.hasNull then .error (.path .nullCharacter) else .ok (path.resolve env.cwd)

/-- What loading gives for a configuration file, or for none. -/
def Environment.loadFile [Limits] (env : Environment) (base : Path) : Option Path → Loaded
  | none => .ofDocument "" base (.ofValue (.map []))
  | some path =>
    match env.readConfig path with
    | .ok document => .ofDocument "" base document
    | .error fault =>
      match fault with
      | .value cause =>
        if fault.isExpected then .ofDocument (loadReport fault) base (.ofValue (.map []))
        else ⟨"", .error (.value cause)⟩
      | fault => .ofDocument (loadReport fault) base (.ofValue (.map []))

/-- **The settings of a run**, for a configuration file and a base directory that may be given. -/
def Environment.load [Limits] (env : Environment) (config base : Option Path) : Loaded :=
  match env.baseDir base with
  | .error fault => ⟨"", .error fault⟩
  | .ok base =>
    match env.findConfig config with
    | .error fault => ⟨"", .error (.path fault)⟩
    | .ok file => env.loadFile base file

end ShellPipeline
