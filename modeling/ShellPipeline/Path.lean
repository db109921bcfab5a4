import ShellPipeline.Text.Quoted

/-!
# Paths

A path is a root and the names on the way from it. Reading a path drops empty names and names that
are a single dot; names of two dots stay, since what they lead to depends on the tree. Exactly two
slashes in front are a root of their own, any other number of them is the plain root.

* `Path.ofString`, `Path.text` — reading and writing;
* `Path.join`, `Path.parent`, `Path.suffix` — building and taking apart;
* `Path.normalParts` — the names from the root on with every pair of dots carried out.
-/

namespace ShellPipeline

/-- Where a path starts. -/
inductive PathRoot where
  /-- At the working directory. -/
  | relative
  /-- At the root of the tree. -/
  | single
  /-- At the root written with two slashes. -/
  | double
deriving DecidableEq, Repr, Inhabited

/-- **A path.** -/
structure Path where
  /-- Where it starts. -/
  root : PathRoot
  /-- The names on the way. -/
  parts : List String
deriving DecidableEq, Repr, Inhabited

namespace Path

/-- The root that a number of leading slashes makes. -/
def rootOf : Nat → PathRoot
  | 0 => .relative
  | 2 => .double
  | _ => .single

/-- The names between the slashes of a text, without the empty ones and the single dots. -/
def names (s : List Char) : List String :=
  ((s.splitOn '/').map String.ofList).filter fun name => name ≠ "" ∧ name ≠ "."

/-- The path that a text spells. -/
def ofString (s : String) : Path where
  root := rootOf (s.toList.takeWhile (· == '/')).length
  parts := names s.toList

/-- **The spelling of a path**; a path without names and root is a single dot. -/
def text (p : Path) : String :=
  let names := "/".intercalate p.parts
  match p.root with
  | .relative => if p.parts.isEmpty then "." else names
  | .single => "/" ++ names
  | .double => "//" ++ names

/-- Whether a path starts at a root. -/
def isAbsolute (p : Path) : Bool := p.root != .relative

/-- The path from one path on along another; an absolute one stands for itself. -/
def join (base p : Path) : Path :=
  if p.isAbsolute then p else { base with parts := base.parts ++ p.parts }

/-- A path with one more name. -/
def child (p : Path) (name : String) : Path := { p with parts := p.parts ++ [name] }

/-- A path without its last name; a path without names stays. -/
def parent (p : Path) : Path := { p with parts := p.parts.dropLast }

/-- The last name; empty where there is none. -/
def name (p : Path) : String := p.parts.getLast?.getD ""

/-- The ending of the last name from its last dot on. A dot at either end of the name starts no
ending. -/
def suffix (p : Path) : String :=
  let name := p.name.toList
  let ending := (name.reverse.takeWhile (· != '.')).reverse
  if ending.length = 0 ∨ name.length ≤ ending.length + 1 then ""
  else String.ofList ('.' :: ending)

/-- The names from the root of the tree on, for a path read in a working directory. -/
def absoluteParts (cwd : List String) (p : Path) : List String :=
  if p.isAbsolute then p.parts else cwd ++ p.parts

/-- Takes one name into the names so far, which are held last to first: a pair of dots takes the
last one away, and none from the root. -/
def stepPart (done : List String) (part : String) : List String :=
  if part = ".." then done.tail else part :: done

/-- Names with every pair of dots carried out. -/
def normalParts (parts : List String) : List String := (parts.foldl stepPart []).reverse

/-- Whether the null character, which no tree takes, is in a path. -/
def hasNull (p : Path) : Bool := p.parts.any (·.toList.contains '\x00')

/-- **A path resolved in a working directory**: absolute, under the plain root, without pairs of
dots. There are no links, so the names alone decide. -/
def resolve (cwd : List String) (p : Path) : Path := ⟨.single, normalParts (p.absoluteParts cwd)⟩

/-- A path made absolute, with every pair of dots carried out. A root of two slashes stays. -/
def absolute (cwd : List String) (p : Path) : Path where
  root := if p.isAbsolute then p.root else .single
  parts := normalParts (p.absoluteParts cwd)

end Path

end ShellPipeline
