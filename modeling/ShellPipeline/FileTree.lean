import ShellPipeline.Path

/-!
# File trees

The directories and files that the program finds, reads and writes. Every node is known by the names
that lead to it from the root; there are no links. The root itself is always a directory.

A path is walked name by name. Each step needs a directory to stand in; a pair of dots steps back. A
name of more than 255 bytes cannot be looked up, nor can a path that takes 4096 bytes or more.

* `FileTree.find` — where a path leads;
* `FileTree.present`, `FileTree.read` — questions to a tree;
* `FileTree.makeDirectories`, `FileTree.openToAppend`, `FileTree.moveOn` — changes.
-/

namespace ShellPipeline

/-- What a tree has at a place. -/
inductive Node where
  /-- A directory. -/
  | directory
  /-- A file with its bytes. -/
  | file (content : ByteArray)
deriving Inhabited

instance : DecidableEq Node
  | .directory, .directory => isTrue rfl
  | .directory, .file _ => isFalse nofun
  | .file _, .directory => isFalse nofun
  | .file a, .file b =>
    match ByteArray.instDecidableEq a b with
    | isTrue h => isTrue (congrArg Node.file h)
    | isFalse h => isFalse fun hfile => h (Node.file.inj hfile)

/-- **A tree of directories and files.** -/
structure FileTree where
  /-- The nodes below the root, each under the names that lead to it. -/
  nodes : List (List String × Node)
deriving DecidableEq

/-- What a tree refuses. -/
inductive PathCause where
  /-- There is nothing at the place. -/
  | notFound
  /-- There is something at the place. -/
  | occupied
  /-- A directory is needed. -/
  | notDirectory
  /-- A file is needed. -/
  | isDirectory
  /-- A name, or the whole path, is too long. -/
  | nameTooLong
deriving DecidableEq, Repr

/-- Why something could not be done with a path. -/
inductive PathFault where
  /-- The tree refuses the path, spelled as it was given. -/
  | refused (cause : PathCause) (path : String)
  /-- There is a null character in the path. -/
  | nullCharacter
deriving DecidableEq, Repr

/-- The number that stands for a cause. -/
def PathCause.number : PathCause → Nat
  | notFound => 2
  | occupied => 17
  | notDirectory => 20
  | isDirectory => 21
  | nameTooLong => 36

/-- The wording of a cause. -/
def PathCause.message : PathCause → String
  | notFound => "No such file or directory"
  | occupied => "File exists"
  | notDirectory => "Not a directory"
  | isDirectory => "Is a directory"
  | nameTooLong => "File name too long"

/-- The wording of a fault. -/
def PathFault.message : PathFault → String
  | refused cause path =>
    "[Errno " ++ toString cause.number ++ "] " ++ cause.message ++ ": " ++ Text.quote path
  | nullCharacter => "embedded null byte"

namespace FileTree

/-- What is at a place, known by its names from the root on. -/
def node? (tree : FileTree) (place : List String) : Option Node :=
  if place.isEmpty then some .directory else tree.nodes.lookup place

/-- The tree with a node put at a place. -/
def put (tree : FileTree) (place : List String) (node : Node) : FileTree where
  nodes :=
    if tree.nodes.any (·.1 == place) then
      tree.nodes.map fun entry => if entry.1 == place then (place, node) else entry
    else tree.nodes ++ [(place, node)]

/-- The bytes that a name may take. -/
def nameLimit : Nat := 255

/-- The bytes below which a path has to stay. -/
def pathLimit : Nat := 4096

/-- Where a path leads. -/
inductive Spot where
  /-- To something. -/
  | found (place : List String) (node : Node)
  /-- To a place in a directory where nothing is yet. -/
  | vacant (place : List String)

/-- Walks along names from a place. -/
def walk (tree : FileTree) (place : List String) : List String → Except PathCause Spot
  | [] =>
    match tree.node? place with
    | some node => .ok (.found place node)
    | none => .ok (.vacant place)
  | name :: rest =>
    match tree.node? place with
    | none => .error .notFound
    | some (.file _) => .error .notDirectory
    | some .directory =>
      if nameLimit < name.utf8ByteSize then .error .nameTooLong
      else if name = ".." then walk tree place.dropLast rest
      else walk tree (place ++ [name]) rest

/-- **Where a path leads**, read in a working directory. -/
def find (tree : FileTree) (cwd : List String) (path : Path) : Except PathFault Spot :=
  if path.hasNull then .error .nullCharacter
  else if pathLimit ≤ path.text.utf8ByteSize then .error (.refused .nameTooLong path.text)
  else
    let start := if path.isAbsolute then [] else cwd
    match tree.walk start path.parts with
    | .error cause => .error (.refused cause path.text)
    | .ok spot => .ok spot

/-- **Whether there is something at a path.** A path that cannot be walked leads to nothing; only
one that is too long is a fault. -/
def present (tree : FileTree) (cwd : List String) (path : Path) : Except PathFault Bool :=
  match tree.find cwd path with
  | .ok (.found ..) => .ok true
  | .error (.refused .nameTooLong text) => .error (.refused .nameTooLong text)
  | _ => .ok false

/-- Whether there is a directory at a path, with the same exception. -/
def presentDirectory (tree : FileTree) (cwd : List String) (path : Path) : Except PathFault Bool :=
  match tree.find cwd path with
  | .ok (.found _ .directory) => .ok true
  | .error (.refused .nameTooLong text) => .error (.refused .nameTooLong text)
  | _ => .ok false

/-- **The bytes of the file at a path.** -/
def read (tree : FileTree) (cwd : List String) (path : Path) : Except PathFault ByteArray :=
  match tree.find cwd path with
  | .error fault => .error fault
  | .ok (.vacant _) => .error (.refused .notFound path.text)
  | .ok (.found _ .directory) => .error (.refused .isDirectory path.text)
  | .ok (.found _ (.file content)) => .ok content

/-- Makes one directory. -/
def makeDirectory (tree : FileTree) (cwd : List String) (path : Path) : Except PathFault FileTree :=
  match tree.find cwd path with
  | .error fault => .error fault
  | .ok (.found ..) => .error (.refused .occupied path.text)
  | .ok (.vacant place) => .ok (tree.put place .directory)

/-- Makes one directory, unless it is there already. A fault that the directory itself excuses is
none. -/
def ensureDirectory (tree : FileTree) (cwd : List String) (path : Path) :
    Except PathFault FileTree :=
  match tree.makeDirectory cwd path with
  | .ok changed => .ok changed
  | .error (.refused cause text) =>
    if cause = .notFound then .error (.refused cause text)
    else
      match tree.presentDirectory cwd path with
      | .error fault => .error fault
      | .ok true => .ok tree
      | .ok false => .error (.refused cause text)
  | .error .nullCharacter => .error .nullCharacter

/-- Makes the directory at a path of at most `depth` names and the ones on the way to it that are
missing. What was made before a fault stays made. -/
def makeWay (tree : FileTree) (cwd : List String) :
    Nat → Path → FileTree × Option PathFault
  | 0, path =>
    match tree.ensureDirectory cwd path with
    | .ok changed => (changed, none)
    | .error fault => (tree, some fault)
  | depth + 1, path =>
    match tree.ensureDirectory cwd path with
    | .ok changed => (changed, none)
    | .error (.refused .notFound text) =>
      if path.parent = path then (tree, some (.refused .notFound text))
      else
        match makeWay tree cwd depth path.parent with
        | (changed, some fault) => (changed, some fault)
        | (changed, none) =>
          match changed.ensureDirectory cwd path with
          | .ok more => (more, none)
          | .error fault => (changed, some fault)
    | .error fault => (tree, some fault)

/-- **Makes the directory at a path and those on the way to it**, as far as they are missing. -/
def makeDirectories (tree : FileTree) (cwd : List String) (path : Path) :
    FileTree × Option PathFault :=
  tree.makeWay cwd path.parts.length path

/-- **Opens the file at a path to write behind its end**; a missing file is made, empty. The result
is the tree and the place of the file. -/
def openToAppend (tree : FileTree) (cwd : List String) (path : Path) :
    Except PathFault (FileTree × List String) :=
  match tree.find cwd path with
  | .error fault => .error fault
  | .ok (.found _ .directory) => .error (.refused .isDirectory path.text)
  | .ok (.found place (.file _)) => .ok (tree, place)
  | .ok (.vacant place) => .ok (tree.put place (.file .empty), place)

/-- The bytes of the file at a place; none where there is no file. -/
def content (tree : FileTree) (place : List String) : ByteArray :=
  match tree.node? place with
  | some (.file bytes) => bytes
  | _ => .empty

/-- Writes behind the end of the file at a place. -/
def append (tree : FileTree) (place : List String) (text : String) : FileTree :=
  tree.put place (.file (tree.content place ++ text.toUTF8))

/-- Where something stands after what is at one place has been moved to another. -/
def movedPlace (source target place : List String) : List String :=
  if source.isPrefixOf place then target ++ place.drop source.length else place

/-- Moves what is at one place to another, in place of what is there. A directory takes along what
is in it. -/
def relocate (tree : FileTree) (source target : List String) : FileTree where
  nodes :=
    (tree.nodes.filter fun entry => !target.isPrefixOf entry.1).map fun entry =>
      (movedPlace source target entry.1, entry.2)

/-- **Moves what is at one path to another**, in place of a file that is there. Where nothing is at
the first path, nothing is done. A directory is moved like a file, but it is not replaced. -/
def moveOn (tree : FileTree) (source target : Path) : Except PathFault FileTree :=
  match tree.find [] source with
  | .ok (.found place _) =>
    match tree.find [] target with
    | .error fault => .error fault
    | .ok (.found _ .directory) => .error (.refused .isDirectory target.text)
    | .ok (.found other (.file _)) | .ok (.vacant other) => .ok (tree.relocate place other)
  | _ => .ok tree

/-- Moves between pairs of paths, one after the other. A fault ends it. -/
def moveEach (tree : FileTree) : List (Path × Path) → FileTree × Option PathFault
  | [] => (tree, none)
  | (source, target) :: rest =>
    match tree.moveOn source target with
    | .error fault => (tree, some fault)
    | .ok moved => moved.moveEach rest

end FileTree

end ShellPipeline
