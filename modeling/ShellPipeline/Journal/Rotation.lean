import ShellPipeline.FileTree

/-!
# Rotation of the journal's file

The file of the journal is kept below a size. Before a line is written that would make it too large,
the file is put aside under its name with `.1` behind it, what was there before moves on to `.2`,
and so on up to `.3`; what was put aside first is lost. This happens also where the file is still
empty.

The names are taken for those of files, but anything can stand under them. A directory moves on like
a file, with all that is in it; only under the last name it is not replaced, and then the file stays
where it is. A line whose file cannot be put aside is lost.

The size is that of the file in bytes and of the line in characters.
-/

namespace ShellPipeline

/-- The size that the file stays below. -/
def rotationLimit : Nat := 1000000

/-- The place of a file that has been put aside a number of times. -/
def asidePlace (place : List String) (number : Nat) : List String :=
  place.dropLast ++ [(place.getLast?.getD "") ++ "." ++ toString number]

/-- The path of a file that has been put aside a number of times. -/
def Path.aside (file : Path) (number : Nat) : Path :=
  { file with parts := asidePlace file.parts number }

namespace FileTree

/-- **Puts the file of the journal aside** and opens a new one. -/
def rotate (tree : FileTree) (file : Path) : FileTree × Option PathFault :=
  let moves := [(file.aside 2, file.aside 3), (file.aside 1, file.aside 2), (file, file.aside 1)]
  match tree.moveEach moves with
  | (moved, some fault) => (moved, some fault)
  | (moved, none) =>
    match moved.openToAppend [] file with
    | .error fault => (moved, some fault)
    | .ok (opened, _) => (opened, none)

/-- Whether the file has to be put aside before a line is written. -/
def mustRotate (tree : FileTree) (place : List String) (line : String) : Bool :=
  rotationLimit ≤ (tree.content place).size + line.length

/-- **Writes a line to the file of the journal**, unless it has to be put aside and cannot be. -/
def writeLine (tree : FileTree) (file : Path) (line : String) : FileTree × Option PathFault :=
  if tree.mustRotate file.parts line then
    match tree.rotate file with
    | (rotated, some fault) => (rotated, some fault)
    | (rotated, none) => (rotated.append file.parts line, none)
  else (tree.append file.parts line, none)

end FileTree

end ShellPipeline
