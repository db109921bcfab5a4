import Mathlib.Data.List.Basic

/-!
# Outcomes of steps that may fail

A step gives a result or a fault. A result may be passed on to a function or to another step; a
fault goes through unchanged. Said the other way round: what a compound gives tells what its parts
gave.
-/

namespace ShellPipeline

section Outcomes

variable {ε α β : Type} {f : α → β} {outcome : Except ε α}

theorem map_eq_error_iff {e : ε} : outcome.map f = .error e ↔ outcome = .error e := by
  cases outcome <;> simp [Except.map]

theorem map_eq_ok_iff {b : β} : outcome.map f = .ok b ↔ ∃ a, outcome = .ok a ∧ f a = b := by
  cases outcome <;> simp [Except.map]

/-- The result of two steps is that of the second one, on what the first one gives. -/
theorem bind_eq_ok_iff {next : α → Except ε β} {b : β} :
    (outcome >>= next) = .ok b ↔ ∃ a, outcome = .ok a ∧ next a = .ok b := by
  cases outcome with
  | error e => exact ⟨fun h => (by cases h), fun ⟨_, h, _⟩ => (by cases h)⟩
  | ok a => exact ⟨fun h => ⟨a, rfl, h⟩, fun ⟨_, h, hb⟩ => Except.ok.inj h ▸ hb⟩

/-- Two steps give a result where the first one does and then the second one. -/
theorem exists_bind_eq_ok_iff {next : α → Except ε β} :
    (∃ b, (outcome >>= next) = .ok b) ↔ ∃ a, outcome = .ok a ∧ ∃ b, next a = .ok b := by
  simp only [bind_eq_ok_iff]
  exact ⟨fun ⟨b, a, h, hb⟩ => ⟨a, h, b, hb⟩, fun ⟨a, h, b, hb⟩ => ⟨b, a, h, hb⟩⟩

theorem exists_eq_ok_of_isOk (h : outcome.isOk = true) : ∃ a, outcome = .ok a := by
  cases outcome with
  | error e => cases h
  | ok a => exact ⟨a, rfl⟩

end Outcomes

end ShellPipeline
