import ShellPipeline.Proofs.LineReport

/-!
# A result is printed as it is rendered

A result is rendered by joining its blocks with newlines, and printed by echoing one block after the
other. An echo is stripped on its own, and a text that is stripped in parts may come out different
from one that is stripped as a whole: a sequence that begins in one part may end in the next. Here
it cannot. Each echo ends with a newline and no sequence reaches over one, so the whole is stripped
block by block (`ParseResult.stripSequences_render`). Nothing is assumed about the result, which
need not come from a parse.

Inside a block the same goes for its lines. Only the two with a filename can lose anything, since
the others are printable, the list of words for being quoted (`printed_display`).
-/

namespace ShellPipeline

open Text (unlines)

/-- What the members of a list print, one after the other. -/
theorem printed_flatMap {α : Type} (l : List α) (effects : α → List Effect) :
    printed (l.flatMap effects) = String.join (l.map fun a => printed (effects a)) := by
  induction l with
  | nil => rfl
  | cons a l ih => rw [List.flatMap_cons, printed_append, ih, List.map_cons, String.join_cons]

/-- **A block that is printed** is stripped on its own, and a newline ends it. -/
theorem ParsedSegment.printed_display_eq (p : ParsedSegment) :
    printed p.display = Text.stripSequences p.render ++ "\n" := by
  rw [display, Subcommand.display, printed_singleton]
  exact Text.stripSequences_append_newline p.render

namespace ParseResult

/-- What is printed of a result is what is printed of its accepted segments; the notices go to the
error stream. -/
theorem printed_display_eq (result : ParseResult) :
    printed result.display = String.join (result.segments.map fun p => printed p.display) := by
  rw [display, printed_append, printed_notices, String.append_empty, printed_flatMap]

/-- **A rendered result is stripped block by block.** -/
theorem stripSequences_render {result : ParseResult} (h : result.segments ≠ []) :
    Text.stripSequences result.render ++ "\n" =
      String.join (result.segments.map fun p => printed p.display) := by
  have hblocks : result.segments.map (·.render) ≠ [] :=
    fun hnil => h (List.map_eq_nil_iff.mp hnil)
  -- a block is stripped as a line would be, though it may hold newlines
  rw [render, ← Text.stripSequences_append_newline, Text.stripSequences_joinLines hblocks, unlines,
    List.map_map, List.map_map]
  exact congrArg String.join (List.map_congr_left fun p _ => p.printed_display_eq.symm)

end ParseResult

/-- **A result is printed as it is rendered**, whatever stands in it. Where it has no accepted
segment nothing is printed, and otherwise its rendering, stripped as a whole, with a newline behind
it. This is also what is printed of its accepted segments one by one. Of each of them five lines are
rendered and five are printed. The heading, the words that are run and the mode are printed as they
are rendered; of the two files the names are stripped. -/
theorem result_is_printed_as_rendered (result : ParseResult) :
    (printed result.display =
      if result.segments.isEmpty then "" else Text.stripSequences result.render ++ "\n") ∧
    printed result.display = String.join (result.segments.map fun p => printed p.display) ∧
    ∀ p : ParsedSegment,
      let heading := "Subcommand " ++ toString p.index ++ ":"
      let argv := "  argv:   " ++ quoteList p.subcommand.argv
      let input := p.subcommand.input.getD "<stdin>"
      let output := p.subcommand.output.getD "<stdout>"
      let mode := "  mode:   " ++ p.subcommand.mode.word
      p.render = joinLines [heading, argv, "  input:  " ++ input, "  output: " ++ output, mode] ∧
      printed p.display = unlines
        [heading, argv, "  input:  " ++ Text.stripSequences input,
          "  output: " ++ Text.stripSequences output, mode] := by
  refine ⟨?_, result.printed_display_eq, fun p => ⟨rfl, printed_display p⟩⟩
  by_cases hsegments : result.segments = []
  · rw [result.printed_display_eq, hsegments]
    rfl
  · rw [result.printed_display_eq, ← ParseResult.stripSequences_render hsegments,
      if_neg (by simpa using hsegments)]

/-- A sequence that is not finished at the end of its line is kept, and so is one that only comes
about where another one is taken out. -/
example :
    let sub : Subcommand := ⟨[some "\x1b[1m", none], some "\x1b[", some "\x1b\x1b[0m[2J", .append⟩
    printed (ParseResult.display ⟨⟨0, []⟩, [⟨-3, sub, []⟩], []⟩) =
      "Subcommand -3:\n  argv:   ['\\x1b[1m']\n  input:  \x1b[\n  output: \x1b[2J\n" ++
        "  mode:   append\n" := by
  decide +kernel

end ShellPipeline
