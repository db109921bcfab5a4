import ShellPipeline.FileTree

/-!
# The environment of a run

What the program finds around it when it starts: the tree of files, where in it the working
directory and the home directory are, what the environment variable for the configuration says, and
the time that the journal shows.
-/

namespace ShellPipeline

/-- **What a run finds around it.** -/
structure Environment where
  /-- The tree of files. -/
  tree : FileTree
  /-- The names from the root to the working directory. -/
  cwd : List String
  /-- The names from the root to the home directory. -/
  home : List String
  /-- The value of the environment variable that names a configuration file, if it is set. -/
  configVariable : Option String
  /-- The time, as the journal writes it. -/
  clock : String

/-- The working directory as a path. -/
def Environment.cwdPath (env : Environment) : Path := ⟨.single, env.cwd⟩

/-- The home directory as a path. -/
def Environment.homePath (env : Environment) : Path := ⟨.single, env.home⟩

end ShellPipeline
