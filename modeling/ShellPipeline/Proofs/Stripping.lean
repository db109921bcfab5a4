import ShellPipeline.Proofs.Lines
import ShellPipeline.Report
import ShellPipeline.Text.ControlSequence

/-!
# Stripped texts

A newline is no part of a control sequence: it is neither the escape character nor the bracket,
neither a parameter nor a letter. So no sequence reaches over it, and a text is stripped line by
line (`stripSequences_newline`); in particular no newline is ever stripped. What stands before the
first escape character is no part of a sequence either (`stripSequences_append`).

* `stripSequenceChars_append_newline` — the argument, on characters;
* `stripSequences_newline`, `newlines_stripSequences` — stripping and newlines;
* `stripSequences_append` — the part before the first escape character;
* `stripSequences_joinLines` — what becomes of a report, line by line.
-/

namespace ShellPipeline.Text

/-! ### Stripping line by line -/

section Chars

theorem stripSequenceChars_nil : stripSequenceChars [] = [] := by
  rw [stripSequenceChars]

/-- A sequence at the front is left out. -/
theorem stripSequenceChars_of_some {s behind : List Char} (h : afterSequence? s = some behind) :
    stripSequenceChars s = stripSequenceChars behind := by
  cases s with
  | nil => cases h
  | cons c rest =>
    rw [stripSequenceChars]
    split
    · rename_i found hfound
      rw [h] at hfound
      rw [Option.some.inj hfound]
    · rename_i hnone
      rw [h] at hnone
      cases hnone

/-- A character that begins no sequence is kept. -/
theorem stripSequenceChars_of_none {c : Char} {rest : List Char}
    (h : afterSequence? (c :: rest) = none) :
    stripSequenceChars (c :: rest) = c :: stripSequenceChars rest := by
  rw [stripSequenceChars]
  split
  · rename_i found hfound
    rw [h] at hfound
    cases hfound
  · rfl

/-- A sequence begins with the escape character. -/
theorem afterSequence?_of_ne {c : Char} (h : c ≠ '\x1b') (rest : List Char) :
    afterSequence? (c :: rest) = none := by
  unfold afterSequence?
  split
  · rename_i heq
    exact absurd (List.cons.inj heq).1 h
  · rfl

/-- What stands before the escape character stays as it is. -/
theorem stripSequenceChars_append_of_notMem {s : List Char} (h : '\x1b' ∉ s) (t : List Char) :
    stripSequenceChars (s ++ t) = s ++ stripSequenceChars t := by
  induction s with
  | nil => rfl
  | cons c s ih =>
    have hc : c ≠ '\x1b' := fun heq => h (heq ▸ List.mem_cons_self)
    rw [List.cons_append, stripSequenceChars_of_none (afterSequence?_of_ne hc _),
      ih fun hmem => h (List.mem_cons_of_mem c hmem), List.cons_append]

theorem afterParameters?_append_newline (s t : List Char) :
    afterParameters? (s ++ '\n' :: t) = (afterParameters? s).map (· ++ '\n' :: t) := by
  induction s with
  | nil =>
    have hparameter : isParameter '\n' = false := by decide
    have hletter : '\n'.isAlpha = false := by decide
    simp [afterParameters?, hparameter, hletter]
  | cons c s ih =>
    -- a parameter is passed, a letter ends the sequence, anything else ends the search
    rw [List.cons_append, afterParameters?, afterParameters?, ih]
    by_cases hparameter : isParameter c = true
    · rw [if_pos hparameter, if_pos hparameter]
    · by_cases hletter : c.isAlpha = true <;> simp [hparameter, hletter]

/-- **A sequence ends before a newline, or is none.** -/
theorem afterSequence?_append_newline (c : Char) (s t : List Char) :
    afterSequence? (c :: (s ++ '\n' :: t)) = (afterSequence? (c :: s)).map (· ++ '\n' :: t) := by
  by_cases hc : c = '\x1b'
  · subst hc
    cases s with
    -- the newline itself would have to be the bracket
    | nil => rfl
    | cons d s =>
      by_cases hd : d = '['
      · subst hd
        exact afterParameters?_append_newline s t
      · -- without the bracket there is no sequence, whatever follows
        have hnone : ∀ u : List Char, afterSequence? ('\x1b' :: d :: u) = none := by
          intro u
          unfold afterSequence?
          split
          · rename_i heq
            exact absurd (List.cons.inj (List.cons.inj heq).2).1 hd
          · rfl
        rw [List.cons_append, hnone, hnone, Option.map_none]
  · rw [afterSequence?_of_ne hc, afterSequence?_of_ne hc, Option.map_none]

/-- **A text is stripped line by line.** -/
theorem stripSequenceChars_append_newline (s t : List Char) :
    stripSequenceChars (s ++ '\n' :: t) = stripSequenceChars s ++ '\n' :: stripSequenceChars t := by
  -- along the run: the end of the text, a sequence, a character that is kept
  induction s using stripSequenceChars.induct with
  | case1 =>
    have hnewline : '\n' ≠ '\x1b' := by decide
    rw [List.nil_append, stripSequenceChars_nil, List.nil_append,
      stripSequenceChars_of_none (afterSequence?_of_ne hnewline t)]
  | case2 c rest behind h ih =>
    have happend := afterSequence?_append_newline c rest t
    rw [h, Option.map_some] at happend
    rw [List.cons_append, stripSequenceChars_of_some happend, stripSequenceChars_of_some h, ih]
  | case3 c rest h ih =>
    have happend := afterSequence?_append_newline c rest t
    rw [h, Option.map_none] at happend
    rw [List.cons_append, stripSequenceChars_of_none happend, stripSequenceChars_of_none h, ih,
      List.cons_append]

theorem count_newline_of_afterParameters? {s behind : List Char}
    (h : afterParameters? s = some behind) : behind.count '\n' = s.count '\n' := by
  induction s with
  | nil => cases h
  | cons c s ih =>
    -- neither a parameter nor a letter is a newline
    have hne : isParameter c = true ∨ c.isAlpha = true → c ≠ '\n' := by
      rintro hc rfl
      revert hc
      decide
    rw [afterParameters?] at h
    split at h
    · rename_i hparameter
      rw [ih h, List.count_cons_of_ne (hne (.inl hparameter))]
    · split at h
      · rename_i hletter
        rw [← Option.some.inj h, List.count_cons_of_ne (hne (.inr hletter))]
      · cases h

theorem count_newline_of_afterSequence? {s behind : List Char}
    (h : afterSequence? s = some behind) : behind.count '\n' = s.count '\n' := by
  unfold afterSequence? at h
  split at h
  · rw [count_newline_of_afterParameters? h, List.count_cons_of_ne (by decide),
      List.count_cons_of_ne (by decide)]
  · cases h

/-- **No newline is stripped.** -/
theorem count_newline_stripSequenceChars (s : List Char) :
    (stripSequenceChars s).count '\n' = s.count '\n' := by
  induction s using stripSequenceChars.induct with
  | case1 => rw [stripSequenceChars_nil]
  | case2 c rest behind h ih =>
    rw [stripSequenceChars_of_some h, ih, count_newline_of_afterSequence? h]
  | case3 c rest h ih =>
    rw [stripSequenceChars_of_none h, List.count_cons, ih, List.count_cons]

end Chars

/-- **A text is stripped line by line.** -/
theorem stripSequences_newline (s t : String) :
    stripSequences (s ++ "\n" ++ t) = stripSequences s ++ "\n" ++ stripSequences t := by
  apply String.toList_injective
  have hchars : (s ++ "\n" ++ t).toList = s.toList ++ '\n' :: t.toList := by
    rw [String.toList_append, String.toList_append, List.append_assoc]
    rfl
  rw [toList_stripSequences, hchars, stripSequenceChars_append_newline, String.toList_append,
    String.toList_append, toList_stripSequences, toList_stripSequences, List.append_assoc]
  rfl

@[simp] theorem stripSequences_empty : stripSequences "" = "" := by
  rw [stripSequences]
  exact congrArg String.ofList stripSequenceChars_nil

/-- The newline at the end of a text is not stripped. -/
theorem stripSequences_append_newline (s : String) :
    stripSequences (s ++ "\n") = stripSequences s ++ "\n" := by
  have hstrip := stripSequences_newline s ""
  rwa [String.append_empty, stripSequences_empty, String.append_empty] at hstrip

@[simp] theorem newlines_stripSequences (s : String) :
    newlines (stripSequences s) = newlines s := by
  rw [newlines, toList_stripSequences, count_newline_stripSequenceChars, newlines]

/-- What stands before the escape character stays as it is. -/
theorem stripSequences_append {s : String} (h : '\x1b' ∉ s.toList) (t : String) :
    stripSequences (s ++ t) = s ++ stripSequences t := by
  apply String.toList_injective
  rw [toList_stripSequences, String.toList_append, stripSequenceChars_append_of_notMem h,
    String.toList_append, toList_stripSequences]

theorem stripSequences_of_notMem {s : String} (h : '\x1b' ∉ s.toList) : stripSequences s = s := by
  have hstrip := stripSequences_append h ""
  rwa [String.append_empty, stripSequences_empty, String.append_empty] at hstrip

/-- **Lines joined and echoed** are the lines, each stripped on its own, with a newline behind each.
-/
theorem stripSequences_joinLines {lines : List String} (h : lines ≠ []) :
    stripSequences (joinLines lines ++ "\n") = unlines (lines.map stripSequences) := by
  induction lines with
  | nil => exact absurd rfl h
  | cons line lines ih =>
    cases lines with
    | nil =>
      rw [joinLines, String.intercalate_singleton, stripSequences_append_newline,
        List.map_singleton, unlines_cons, unlines_nil, String.append_empty]
    | cons next lines =>
      have hjoin : joinLines (line :: next :: lines) =
          line ++ "\n" ++ joinLines (next :: lines) := by
        rw [joinLines, String.intercalate_cons_cons, joinLines]
      rw [hjoin, String.append_assoc, stripSequences_newline, ih (List.cons_ne_nil next lines),
        ← unlines_cons, ← List.map_cons]

end ShellPipeline.Text
