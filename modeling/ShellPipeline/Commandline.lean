import ShellPipeline.Fault
import ShellPipeline.Text.Slice

/-!
# Command lines

A line is cut into segments at every pipe, `|`. Nothing is trimmed, so a pipe at either end of the
line and two pipes in a row each give an empty segment, and there is always one segment more than
there are pipes.

The segments are counted first. Then they are copied one by one: each copy runs from behind the last
pipe to the next one, or to the end of the line. Copying may run out of memory. Which copies fail is
not decided here but given, as a test on the number of the copy.

* `Cut`, `cuts` — where the copies start and stop;
* `copySegments` — the copies, for a count that the caller brings along;
* `Commandline.ofLine` — a line with its segments, when memory suffices;
* `Commandline.split` — the same under copies that may fail.
-/

namespace ShellPipeline

/-- The character between two segments. -/
def pipe : Char := '|'

/-- **The number of segments of a line**: its pipes, and one. -/
def countSegments (line : String) : Nat := line.toList.count pipe + 1

/-- The position of the first pipe at or behind a position. -/
def nextPipe (line : List Char) (start : Nat) : Option Nat :=
  ((line.drop start).findIdx? (· == pipe)).map (start + ·)

/-- The place of one copy. -/
structure Cut where
  /-- Where the copy starts. -/
  start : Nat
  /-- The pipe that ends it; none where the line ends first. -/
  pipe : Option Nat
deriving DecidableEq, Repr

/-- Where a copy stops: before its pipe, or at the end of the line. -/
def Cut.stop (line : List Char) (cut : Cut) : Nat := cut.pipe.getD line.length

/-- The copy itself. -/
def Cut.segment (line : String) (cut : Cut) : String :=
  Text.slice line cut.start (cut.stop line.toList)

/-- The places of the first `number` copies from a position on. -/
def cuts (line : List Char) : Nat → Nat → List Cut
  | 0, _ => []
  | number + 1, start =>
    let cut : Cut := ⟨start, nextPipe line start⟩
    cut :: cuts line number (cut.stop line + 1)

/-- Copies the segments at the given places. `fails` tells which copies run out of memory; `number`
is the number of the first of them. -/
def copyCuts (fails : Nat → Bool) (line : String) :
    Nat → List Cut → Except SplitFault (List String)
  | _, [] => .ok []
  | number, cut :: rest =>
    if fails number then .error (.copyFailed number)
    else (copyCuts fails line (number + 1) rest).map (cut.segment line :: ·)

/-- **The segments of a line, for a count given from outside.** A count that is not the line's own
is refused before anything is copied. -/
def copySegments (fails : Nat → Bool) (line : String) (number : Int) :
    Except SplitFault (List String) :=
  if number ≠ countSegments line then .error (.wrongCount number (countSegments line))
  else copyCuts fails line 1 (cuts line.toList (countSegments line) 0)

/-- A line that has been cut. -/
structure Commandline where
  /-- The number of segments. -/
  num : Nat
  /-- The segments as they stand in the line, in order. -/
  segments : List String
deriving DecidableEq, Repr

namespace Commandline

/-- **A line with its segments.** -/
def ofLine (line : String) : Commandline where
  num := countSegments line
  segments := (cuts line.toList (countSegments line) 0).map (·.segment line)

/-- **A line with its segments, where some copies may fail.** -/
def split (fails : Nat → Bool) (line : String) : Except SplitFault Commandline :=
  (copySegments fails line (countSegments line)).map fun segments =>
    ⟨countSegments line, segments⟩

end Commandline

theorem copyCuts_of_none_fails (line : String) (number : Nat) (places : List Cut) :
    copyCuts (fun _ => false) line number places = .ok (places.map (·.segment line)) := by
  induction places generalizing number with
  | nil => rfl
  | cons cut rest ih => simp [copyCuts, ih, Except.map]

/-- Where memory suffices, cutting a line gives the line with its segments. -/
theorem Commandline.split_of_none_fails (line : String) :
    Commandline.split (fun _ => false) line = .ok (.ofLine line) := by
  simp [Commandline.split, copySegments, copyCuts_of_none_fails, Except.map, Commandline.ofLine]

end ShellPipeline
