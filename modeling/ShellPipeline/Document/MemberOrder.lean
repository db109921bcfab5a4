import ShellPipeline.Document.Value

/-!
# The order of members

The members of a set have no order of their own, but they are shown in one. Numbers are shown by the
slots that they take in a table, in which a number looks for its place by its residue. If a set
holds anything but numbers, its members are shown in the order in which they were written.

Equal numbers have equal residues, whether they are whole numbers or floating-point numbers, since
the powers of two repeat themselves among the residues.

* `residue?` — the residue of a number;
* `place` — the slot of one more number;
* `memberOrder` — the order in which members are shown.
-/

namespace ShellPipeline.Document

open Number (Binary64)

/-- What residues are taken by. It is one less than a power of two. -/
def residueModulus : Nat := Nat.pow 2 61 - 1

/-- A residue with its sign, as a number of 64 binary digits. No number has the residue `-1`. -/
def signedResidue (negative : Bool) (residue : Nat) : Nat :=
  if !negative || residue = 0 then residue
  else if residue = 1 then Nat.pow 2 64 - 2
  else Nat.pow 2 64 - residue

/-- **The residue of a number**; none for other values. -/
def residue? : Value → Option Nat
  | .bool b => some (if b then 1 else 0)
  | .int n => some (signedResidue (decide (n < 0)) (n.natAbs % residueModulus))
  | .float (.finite negative mantissa exponent) =>
    let power := Nat.pow 2 (exponent % 61).toNat
    some (signedResidue negative (mantissa * power % residueModulus))
  | .float (.infinity negative) => some (signedResidue negative 314159)
  | _ => none

/-- The number of slots in the table of a number of members: a power of two, never less than
eight. -/
def slotCount (members : Nat) : Nat :=
  if members < 5 then 8 else Nat.pow 2 ((2 * members).log2 + 1)

/-- The slots near one that are looked at together with it: the nine behind it, if there are as
many. -/
def nearby (size slot : Nat) : List Nat :=
  if slot + 9 < size then (List.range 10).map (slot + ·) else [slot]

/-- The first free slot for a residue from a slot on; `rest` is what is left of the residue for the
choice of the next slots. -/
def freeSlot (slots : Array (Option Nat)) : Nat → Nat → Nat → Nat
  | 0, slot, _ => slot
  | bound + 1, slot, rest =>
    match (nearby slots.size slot).find? fun slot => (slots.getD slot none).isNone with
    | some free => free
    | none => freeSlot slots bound ((slot * 5 + 1 + rest / 32) % slots.size) (rest / 32)

/-- The slots with one more member in place. -/
def place (slots : Array (Option Nat)) (member residue : Nat) : Array (Option Nat) :=
  let free := freeSlot slots (slots.size + 16) (residue % slots.size) residue
  slots.setIfInBounds free (some member)

/-- **The order in which members are shown**, for members with their values. -/
def memberOrder (members : List (Nat × Value)) : List Nat :=
  match members.mapM fun member => (residue? member.2).map fun residue => (member.1, residue) with
  | none => members.map (·.1)
  | some members =>
    let slots := members.foldl (fun slots member => place slots member.1 member.2)
      (Array.replicate (slotCount members.length) none)
    slots.toList.filterMap id

/-- Nine looks for the slot of one and, finding it taken, goes on to another. -/
example : memberOrder [(0, .int 3), (1, .int 1), (2, .int 9), (3, .int 8)] = [3, 1, 0, 2] := by
  decide +kernel

example : memberOrder [(0, .int 3), (1, .text "a"), (2, .int 1)] = [0, 1, 2] := by decide +kernel

end ShellPipeline.Document
