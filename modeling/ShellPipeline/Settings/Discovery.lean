import ShellPipeline.Environment

/-!
# Where a configuration is looked for

A configuration file that is named explicitly is the one, whether it is there or not. Otherwise the
first of these is taken that is there: the file that the environment variable names, unless that is
empty; the known names in the working directory; the same names in the directory for configurations
under the home directory.
-/

namespace ShellPipeline

/-- The names that a configuration file may have, the preferred one first. -/
def configNames : List String := ["pipeparse.toml", "pipeparse.yaml", "pipeparse.yml"]

/-- The file that the environment variable names. -/
def Environment.variablePath? (env : Environment) : Option Path :=
  match env.configVariable with
  | none => none
  | some s => if s.isEmpty then none else some (.ofString s)

/-- The directory for configurations under the home directory. -/
def Environment.homeConfigDir (env : Environment) : Path :=
  (env.homePath.child ".config").child "pipeparse"

/-- **The places where a configuration is looked for**, in order. -/
def Environment.candidates (env : Environment) : List Path :=
  env.variablePath?.toList ++ configNames.map env.cwdPath.child ++
    configNames.map env.homeConfigDir.child

/-- The first of some paths at which there is something. -/
def Environment.firstPresent? (env : Environment) : List Path → Except PathFault (Option Path)
  | [] => .ok none
  | path :: rest =>
    match env.tree.present env.cwd path with
    | .error fault => .error fault
    | .ok true => .ok (some path)
    | .ok false => firstPresent? env rest

/-- **The configuration file of a run**, if there is one. -/
def Environment.findConfig (env : Environment) (explicit : Option Path) :
    Except PathFault (Option Path) :=
  match explicit with
  | some path => .ok (some path)
  | none => env.firstPresent? env.candidates

end ShellPipeline
