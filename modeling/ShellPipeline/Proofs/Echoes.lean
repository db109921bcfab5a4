import ShellPipeline.Display
import ShellPipeline.Proofs.Explanation
import ShellPipeline.Proofs.Printable

/-!
# What is echoed

A report is a row of lines, and what comes of echoing it is the same row, each line stripped on its
own and with a newline behind it (`printed_echo_joinLines`). Where a line is printable nothing of it
is stripped and no newline is in it. The wording of a fault that a parse finds is printable, since
it holds operators only, never a word of the line (`allPrintable_message`); a word of the line may
hold anything but a blank, so at least no character that may end a line (`IsWord.oneLine`).
-/

namespace ShellPipeline

open Text (AllPrintable newlines unlines)

/-! ### Rows of lines -/

/-- The effects on the members of a list, one after the other, put out the lines of the members. -/
theorem flatMap_eq_unlines {α : Type} {out : List Effect → String} (hnil : out [] = "")
    (happend : ∀ a b, out (a ++ b) = out a ++ out b) {l : List α} {effects : α → List Effect}
    {lines : α → List String} (h : ∀ a ∈ l, out (effects a) = unlines (lines a)) :
    out (l.flatMap effects) = unlines (l.flatMap lines) := by
  induction l with
  | nil => exact hnil
  | cons a l ih =>
    rw [List.flatMap_cons, happend, h a List.mem_cons_self,
      ih fun b hb => h b (List.mem_cons_of_mem a hb), List.flatMap_cons, Text.unlines_append]

/-- The effects on the members of a list put out nothing where none of them does. -/
theorem flatMap_eq_empty {α : Type} {out : List Effect → String} (hnil : out [] = "")
    (happend : ∀ a b, out (a ++ b) = out a ++ out b) {l : List α} {effects : α → List Effect}
    (h : ∀ a ∈ l, out (effects a) = "") : out (l.flatMap effects) = "" := by
  have hlines : ∀ a ∈ l, out (effects a) = unlines ((fun _ => []) a) := h
  rw [flatMap_eq_unlines hnil happend hlines, List.flatMap_eq_nil_iff.mpr fun _ _ => rfl,
    Text.unlines_nil]

theorem printed_singleton (effect : Effect) : printed [effect] = effect.printed := by
  simp [printed]

theorem reported_singleton (effect : Effect) : reported [effect] = effect.reported := by
  simp [reported]

/-- **A report that is echoed** is its lines, each stripped on its own. -/
theorem printed_echo_joinLines {lines : List String} (h : lines ≠ []) :
    printed [.echo (joinLines lines)] = unlines (lines.map Text.stripSequences) := by
  rw [printed_singleton]
  exact Text.stripSequences_joinLines h

/-- A printable line that is echoed. -/
theorem printed_echo_of_allPrintable {line : String} (h : AllPrintable line) :
    printed [.echo line] = unlines [line] := by
  rw [printed_singleton, Text.unlines_cons, Text.unlines_nil, String.append_empty]
  exact h.stripSequences_line

theorem newlines_echo_of_allPrintable {line : String} (h : AllPrintable line) :
    newlines (printed [.echo line]) = 1 := by
  rw [printed_echo_of_allPrintable h, Text.newlines_unlines, List.map_singleton,
    List.sum_singleton, h.newlines, List.length_singleton]

/-- A printable line that is echoed on the error stream. -/
theorem reported_echoError_of_allPrintable {line : String} (h : AllPrintable line) :
    reported [.echoError line] = unlines [line] := by
  rw [reported_singleton, Text.unlines_cons, Text.unlines_nil, String.append_empty]
  exact h.stripSequences_line

/-! ### Words and wordings -/

/-- **A word is one line**, since every line break is blank. -/
theorem Text.IsWord.oneLine {w : String} (h : Text.IsWord w.toList) : Text.OneLine w := by
  have hblank : Text.lineBreaks.all Text.isBlank = true := by decide
  intro c hc hbreak
  have hnot := h.not_blank c hc
  rw [List.all_eq_true.mp hblank c hbreak] at hnot
  cases hnot

/-- **The wording of a fault that a parse finds is printable**: of the line it holds operators only.
-/
theorem allPrintable_message {segment : String} {fault : SyntaxFault}
    (h : parseSubcommand segment = .error fault) : AllPrintable fault.message := by
  have hsymbol : ∀ operator : Redirect, AllPrintable operator.symbol := by
    intro operator
    cases operator <;> decide
  -- a fault among the words names operators; one among the tokens names nothing
  rcases parseSubcommand_eq_error_iff.mp h with hfault | ⟨tokens, htokens, hfault⟩
  · have hafter : AllPrintable "expected filename after '" := by decide
    have hgot : AllPrintable "', got '" := by decide
    have hmissing : AllPrintable "missing filename after '" := by decide
    have hmark : AllPrintable "'" := by decide
    rcases tokenize_eq_error hfault with ⟨operator, found, rfl⟩ | ⟨operator, rfl⟩
    · exact (((hafter.append (hsymbol operator)).append hgot).append (hsymbol found)).append hmark
    · exact (hmissing.append (hsymbol operator)).append hmark
  · rw [assemble_eq_error_of_tokenize htokens hfault]
    decide

/-- A number between a printable head and a colon. -/
theorem allPrintable_heading {head : String} (h : AllPrintable head) (index : Int) :
    AllPrintable (head ++ toString index ++ ":") :=
  (h.append (Text.allPrintable_toString index)).append (by decide)

theorem allPrintable_argvLine (sub : Subcommand) :
    AllPrintable ("  argv:   " ++ quoteList sub.argv) := by
  have hhead : AllPrintable "  argv:   " := by decide
  exact hhead.append (allPrintable_quoteList sub.argv)

theorem allPrintable_modeLine (sub : Subcommand) :
    AllPrintable ("  mode:   " ++ sub.mode.word) := by
  have hhead : AllPrintable "  mode:   " := by decide
  refine hhead.append ?_
  cases sub.mode <;> decide

end ShellPipeline
