import ShellPipeline.Fault
import Mathlib.Order.Bounds.Defs
import Mathlib.Order.Lattice.Nat

/-!
# Adjacency

The rules about operators and filenames look at two neighbours only: a member of a list and the one
directly before it. The programs that decide them run along the list with a state. This file has
what is needed to compare the two.

* `before?` — the member directly before a position, where something may stand before the list;
* `isLeast_of_isLeast_succ` — how the least position of a property moves when the first member of
  the list is taken away;
* `IsOperator` — the words that spell an operator;
* `RejectedWith` — an outcome that is a fault of a given kind and wording.
-/

namespace ShellPipeline

variable {α : Type}

/-! ### Neighbours -/

/-- **The member of a list directly before a position.** `previous` is what stands before the list,
if anything does. -/
def before? (previous : Option α) (l : List α) : Nat → Option α
  | 0 => previous
  | p + 1 => l[p]?

@[simp] theorem before?_zero (previous : Option α) (l : List α) : before? previous l 0 = previous :=
  rfl

@[simp] theorem before?_succ (previous : Option α) (l : List α) (p : Nat) :
    before? previous l (p + 1) = l[p]? := rfl

/-- Taking the first member away moves it before the list. -/
theorem before?_cons_succ (previous : Option α) (a : α) (l : List α) (p : Nat) :
    before? previous (a :: l) (p + 1) = before? (some a) l p := by
  cases p <;> rfl

/-- The last member of a list behind its first one. -/
theorem getLast?_cons_or (previous : Option α) (a : α) (l : List α) :
    (a :: l).getLast?.or previous = l.getLast?.or (some a) := by
  rw [List.getLast?_cons]
  cases l.getLast? <;> rfl

/-! ### Least positions -/

/-- Where the least position of a property is not the first one, it is the least position of the
property read one place further on. -/
theorem isLeast_of_isLeast_succ {P : Nat → Prop} {p : Nat} (h : IsLeast {n | P n} (p + 1)) :
    IsLeast {n | P (n + 1)} p := by
  refine ⟨h.1, fun n hn => ?_⟩
  have hle : p + 1 ≤ n + 1 := h.2 hn
  omega

theorem not_zero_of_isLeast_succ {P : Nat → Prop} {p : Nat} (h : IsLeast {n | P n} (p + 1)) :
    ¬ P 0 := by
  intro h0
  have hle : p + 1 ≤ 0 := h.2 h0
  omega

/-- A property of positions that holds somewhere has a least position. -/
theorem exists_isLeast {P : Nat → Prop} {p : Nat} (h : P p) : ∃ q, IsLeast {n | P n} q :=
  ⟨sInf {n | P n}, Nat.sInf_mem ⟨p, h⟩, fun _ hn => Nat.sInf_le hn⟩

/-! ### Operators and rejections -/

/-- A word that spells an operator. -/
def IsOperator (word : String) : Prop := ∃ operator : Redirect, word = operator.symbol

theorem isOperator_iff {word : String} :
    IsOperator word ↔ ∃ operator, Redirect.ofSymbol? word = some operator := by
  simp only [IsOperator, Redirect.ofSymbol?_eq_some_iff]

theorem not_isOperator_iff {word : String} :
    ¬ IsOperator word ↔ Redirect.ofSymbol? word = none := by
  rw [isOperator_iff, Option.eq_none_iff_forall_ne_some]
  push Not
  rfl

instance (word : String) : Decidable (IsOperator word) :=
  decidable_of_iff ((Redirect.ofSymbol? word).isSome = true) (by
    rw [isOperator_iff, Option.isSome_iff_exists])

/-- An outcome that is a fault of a given kind, worded in a given way. -/
def RejectedWith (outcome : Except SyntaxFault α) (kind : FaultKind) (message : String) : Prop :=
  ∃ fault, outcome = .error fault ∧ fault.kind = kind ∧ fault.message = message

end ShellPipeline
