import Mathlib.Order.Lattice
import ShellPipeline.Document.Value
import ShellPipeline.Limits

/-!
# What can be written out

There are two things in the way of writing a value out: it has more values inside each other than
the run has room for, or there is a whole number in it with too many digits. How many values are
inside each other is a matter of the value alone (`Value.levels`), and so is whether there is such a
number (`Value.HasOverlong`); the room is only compared with the first (`writeFault?_eq_none_iff`).
A text is written as it is, and nothing is in its way.

* `Value.levels`, `Value.HasOverlong` — what is in a value;
* `Value.IsWritable` — the values that can be written out.
-/

namespace ShellPipeline.Document

namespace Value

mutual

/-- **The number of values inside each other** that are met when a value is written out. The members
of a set are written as a list inside it. -/
def levels : Value → Nat
  | list items | tuple items => levelsOf items + 1
  | set members => if members.isEmpty then 1 else levelsOf members + 2
  | map entries => entryLevels entries + 1
  | _ => 1

/-- The same for values beside each other. -/
def levelsOf : List Value → Nat
  | [] => 0
  | v :: rest => max v.levels (levelsOf rest)

/-- The same for entries beside each other. -/
def entryLevels : List (Value × Value) → Nat
  | [] => 0
  | (key, value) :: rest => max (max key.levels value.levels) (entryLevels rest)

end

mutual

/-- **Whether there is a whole number in a value that is too long to be written.** -/
def HasOverlong : Value → Prop
  | int n => digitLimit < (Nat.repr n.natAbs).length
  | list items | tuple items | set items => AnyOverlong items
  | map entries => AnyEntryOverlong entries
  | _ => False

/-- The same for values beside each other. -/
def AnyOverlong : List Value → Prop
  | [] => False
  | v :: rest => v.HasOverlong ∨ AnyOverlong rest

/-- The same for entries beside each other. -/
def AnyEntryOverlong : List (Value × Value) → Prop
  | [] => False
  | (key, value) :: rest => (key.HasOverlong ∨ value.HasOverlong) ∨ AnyEntryOverlong rest

end

theorem one_le_levels (v : Value) : 1 ≤ v.levels := by
  cases v with
  | set members =>
    rw [levels]
    split <;> omega
  | _ => simp [levels]

mutual

/-- **Nothing is in the way of writing a value out** just where there is room for its levels, and no
whole number in it is too long. -/
theorem writeFault?_eq_none_iff (room : Nat) (v : Value) :
    writeFault? room v = none ↔ v.levels ≤ room ∧ ¬ v.HasOverlong := by
  cases room with
  | zero =>
    have hlevels := v.one_le_levels
    simp only [writeFault?, reduceCtorEq, false_iff, not_and]
    omega
  | succ room =>
    cases v with
    | int n => simp [writeFault?, levels, HasOverlong]
    | list items | tuple items =>
      simp [writeFault?, levels, HasOverlong, firstFault?_eq_none_iff room items]
    | set members =>
      rw [writeFault?, levels, HasOverlong, firstFault?_eq_none_iff (room - 1) members]
      -- without members there is no list inside it
      cases members with
      | nil => simp [levelsOf]
      | cons v rest =>
        have hlevels := v.one_le_levels
        have hroom : levelsOf (v :: rest) ≤ room - 1 ↔ levelsOf (v :: rest) + 2 ≤ room + 1 := by
          rw [levelsOf]
          omega
        simp [hroom]
    | map entries =>
      simp [writeFault?, levels, HasOverlong, firstEntryFault?_eq_none_iff room entries]
    | _ => simp [writeFault?, levels, HasOverlong]

theorem firstFault?_eq_none_iff (room : Nat) (items : List Value) :
    firstFault? room items = none ↔ levelsOf items ≤ room ∧ ¬ AnyOverlong items := by
  cases items with
  | nil => simp [firstFault?, levelsOf, AnyOverlong]
  | cons v rest =>
    rw [firstFault?, Option.or_eq_none_iff, writeFault?_eq_none_iff room v,
      firstFault?_eq_none_iff room rest, levelsOf, AnyOverlong]
    grind

theorem firstEntryFault?_eq_none_iff (room : Nat) (entries : List (Value × Value)) :
    firstEntryFault? room entries = none ↔
      entryLevels entries ≤ room ∧ ¬ AnyEntryOverlong entries := by
  cases entries with
  | nil => simp [firstEntryFault?, entryLevels, AnyEntryOverlong]
  | cons entry rest =>
    obtain ⟨key, value⟩ := entry
    rw [firstEntryFault?, Option.or_eq_none_iff, Option.or_eq_none_iff,
      writeFault?_eq_none_iff room key, writeFault?_eq_none_iff room value,
      firstEntryFault?_eq_none_iff room rest, entryLevels, AnyEntryOverlong]
    grind

end

/-- **What can be written out in a run**: a text, and any other value that there is room for and
that holds no whole number that is too long. -/
def IsWritable [Limits] (v : Value) : Prop :=
  v.wording?.isSome = true ∨ v.levels ≤ Limits.writing ∧ ¬ v.HasOverlong

/-- A value that is not a torn text. -/
def IsWhole (v : Value) : Prop := ∀ w, v ≠ .torn w

/-- A value that is a text is as whole as the text. -/
theorem isWhole_iff_of_wording? {v : Value} {w : Wording} (h : v.wording? = some w) :
    v.IsWhole ↔ w.IsWhole := by
  cases v with
  | text s =>
    obtain rfl := Option.some.inj h
    exact iff_of_true nofun (Wording.isWhole_ofChars s.toList)
  | torn t =>
    obtain rfl := Option.some.inj h
    exact iff_of_false (fun hwhole => hwhole t rfl) t.property
  | _ => cases h

end Value

end ShellPipeline.Document
