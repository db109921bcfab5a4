/-!
# Runs of letters

Most of the letters that have a form in the other case lie in runs: alphabets of neighbours, or
every second letter where the two cases alternate, with forms that run along at the same distances.
A case mapping of one letter to one is a list of such runs.

* `CaseRun` — a run of letters and the place where their forms begin;
* `CaseRun.formOf?` — the form of one letter.
-/

namespace ShellPipeline.Text

/-- Letters at equal distances whose forms in the other case lie at the same distances. -/
structure CaseRun where
  /-- The first letter of the run. -/
  first : Nat
  /-- The last letter of the run. -/
  last : Nat
  /-- The distance from one letter to the next. -/
  step : Nat
  /-- The form of the first letter. -/
  form : Nat

/-- The form of a code point of the run; none for a code point outside it. -/
def CaseRun.formOf? (run : CaseRun) (n : Nat) : Option Nat :=
  if run.first ≤ n ∧ n ≤ run.last ∧ (n - run.first) % run.step = 0 then
    some (run.form + (n - run.first))
  else none

end ShellPipeline.Text
