/-!
# Slices

A slice is the part of a list between two positions. A position below zero counts from the end, and
one outside the list is moved to its nearest end; where the start is not before the stop, the slice
is empty.
-/

namespace ShellPipeline.Text

/-- A position in a list of the given length: counted from the end when negative, and kept within
the list. -/
def clampIndex (length : Nat) (position : Int) : Nat :=
  min (if position < 0 then (position + length).toNat else position.toNat) length

/-- The part of a list from `start` up to, and not including, `stop`. -/
def sliceChars (s : List Char) (start stop : Int) : List Char :=
  (s.take (clampIndex s.length stop)).drop (clampIndex s.length start)

/-- **The part of a text** from the position `start` up to the position `stop`. -/
def slice (s : String) (start stop : Int) : String := String.ofList (sliceChars s.toList start stop)

/-- A position within the list is left alone. -/
theorem clampIndex_of_le {length position : Nat} (h : position ≤ length) :
    clampIndex length position = position := by
  unfold clampIndex; split <;> omega

example : slice "a|b" (-1) 100 = "b" := by decide +kernel

end ShellPipeline.Text
