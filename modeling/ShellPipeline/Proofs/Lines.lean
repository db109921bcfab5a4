import Mathlib.Algebra.Ring.Nat
import Mathlib.Data.List.TakeWhile
import ShellPipeline.Proofs.Segments
import ShellPipeline.Proofs.Words
import ShellPipeline.Text.Lines

/-!
# Lines and trimmed texts

The lines of a text are its pieces between newlines, except that a newline at the very end opens no
further line. So a text that is closed, which is to say empty or with a newline at its end, can have
another one behind it without a line of either being touched (`lines_append_of_closed`), and the
lines of any text, each with a newline behind it, are the text again, closed where it was open
(`unlines_lines`).

A text is trimmed to a word just where the word stands in it with nothing but blanks around it
(`trim_eq_iff`), and to nothing just where it is blank (`trim_eq_empty_iff`).
-/

namespace ShellPipeline.Text

/-! ### Lines -/

/-- **A text that is empty or ends with a newline.** -/
def Closed (s : String) : Prop := ∀ c ∈ s.toList.getLast?, c = '\n'

instance (s : String) : Decidable (Closed s) :=
  -- Through `Option.all`: a quantifier over characters can be decided by trying every character.
  decidable_of_iff (s.toList.getLast?.all (· == '\n') = true) <| by
    simp only [Option.all_eq_true, beq_iff_eq, Closed, Option.mem_def]

section Chars

variable {s : List Char}

@[simp] theorem lineChars_nil : lineChars [] = [] := by simp [lineChars]

/-- **A newline ends a line**, and what stands behind it is read as it would be alone. -/
theorem lineChars_append_newline (s t : List Char) :
    lineChars (s ++ '\n' :: t) = s.splitOn '\n' ++ lineChars t := by
  have hne : t.splitOn '\n' ≠ [] := List.splitOn_ne_nil '\n' t
  have hpieces : (s ++ '\n' :: t).splitOn '\n' = s.splitOn '\n' ++ t.splitOn '\n' :=
    List.splitOn_append_cons_self s t
  -- whether there is a piece too many is a matter of the part behind the newline
  have hlast : (s.splitOn '\n' ++ t.splitOn '\n').getLast? = (t.splitOn '\n').getLast? := by
    rw [List.getLast?_append_of_ne_nil _ hne]
  unfold lineChars
  dsimp only
  rw [hpieces, hlast]
  split
  · rw [List.dropLast_append_of_ne_nil hne]
  · rfl

/-- The last line may lack its newline. -/
theorem lineChars_of_notMem (hne : s ≠ []) (h : '\n' ∉ s) : lineChars s = [s] := by
  -- the text is its only piece, and that piece is not empty, so it is not one too many
  unfold lineChars
  rw [List.splitOn_eq_singleton h]
  simp [hne]

/-- No line holds a newline. -/
theorem notMem_of_mem_lineChars {l : List Char} (h : l ∈ lineChars s) : '\n' ∉ l := by
  unfold lineChars at h
  dsimp only at h
  -- a line is a piece, whether the last piece is left out or not
  split at h
  · exact notMem_of_mem_splitOn (List.dropLast_subset _ h)
  · exact notMem_of_mem_splitOn h

/-- A text that is empty, or one that ends with a newline. -/
theorem eq_nil_or_of_closed (h : ∀ c ∈ s.getLast?, c = '\n') : s = [] ∨ ∃ t, s = t ++ ['\n'] := by
  rcases List.eq_nil_or_concat s with rfl | ⟨t, c, rfl⟩
  · exact .inl rfl
  · obtain rfl : c = '\n' := h c (by simp)
    exact .inr ⟨t, List.concat_eq_append⟩

theorem lineChars_append_of_closed (h : ∀ c ∈ s.getLast?, c = '\n') (t : List Char) :
    lineChars (s ++ t) = lineChars s ++ lineChars t := by
  rcases eq_nil_or_of_closed h with rfl | ⟨u, rfl⟩
  · rw [List.nil_append, lineChars_nil, List.nil_append]
  · -- the newline at the end separates the two parts
    rw [List.append_assoc, List.singleton_append, lineChars_append_newline,
      lineChars_append_newline, lineChars_nil, List.append_nil]

/-- Pieces with a newline behind each are the pieces joined, and one newline more. -/
theorem flatMap_newline {pieces : List (List Char)} (h : pieces ≠ []) :
    pieces.flatMap (· ++ ['\n']) = ['\n'].intercalate pieces ++ ['\n'] := by
  induction pieces with
  | nil => exact absurd rfl h
  | cons piece pieces ih =>
    cases pieces with
    | nil => rw [List.flatMap_singleton, List.intercalate_singleton]
    | cons next pieces =>
      rw [List.flatMap_cons, ih (List.cons_ne_nil _ _), List.intercalate_cons_cons]
      simp only [List.append_assoc]

/-- The pieces between the newlines of a text, each with a newline behind it. -/
theorem flatMap_splitOn (s : List Char) : (s.splitOn '\n').flatMap (· ++ ['\n']) = s ++ ['\n'] := by
  rw [flatMap_newline (List.splitOn_ne_nil '\n' s), List.intercalate_splitOn]

/-- **The lines of a closed text are the text.** -/
theorem flatMap_lineChars_of_closed (h : ∀ c ∈ s.getLast?, c = '\n') :
    (lineChars s).flatMap (· ++ ['\n']) = s := by
  rcases eq_nil_or_of_closed h with rfl | ⟨t, rfl⟩
  · rfl
  · rw [lineChars_append_newline, lineChars_nil, List.append_nil, flatMap_splitOn]

/-- A text is a closed part with a rest of its last line behind it. -/
theorem exists_closed_append (s : List Char) :
    ∃ body tail, s = body ++ tail ∧ (∀ c ∈ body.getLast?, c = '\n') ∧ '\n' ∉ tail := by
  induction s with
  | nil => exact ⟨[], [], rfl, fun c hc => absurd hc (Option.not_mem_none c), List.not_mem_nil⟩
  | cons c s ih =>
    obtain ⟨body, tail, rfl, hbody, htail⟩ := ih
    by_cases hc : c = '\n'
    · -- the character closes what stands before the rest
      refine ⟨c :: body, tail, rfl, fun d hd => ?_, htail⟩
      rw [List.getLast?_cons, Option.mem_some_iff] at hd
      cases hlast : body.getLast? with
      | none => rw [← hd, hlast, Option.getD_none, hc]
      | some e => rw [← hd, hlast, Option.getD_some, hbody e hlast]
    · cases body with
      | nil =>
        -- without a newline so far, the character joins the rest
        refine ⟨[], c :: tail, rfl, hbody, fun hmem => ?_⟩
        rcases List.mem_cons.mp hmem with heq | hmem
        · exact hc heq.symm
        · exact htail hmem
      | cons b body =>
        -- the end of the closed part is not touched
        refine ⟨c :: b :: body, tail, rfl, fun d hd => hbody d ?_, htail⟩
        rwa [List.getLast?_cons_cons] at hd

/-- **The lines of an open text are the text, closed.** -/
theorem flatMap_lineChars_of_not_closed (h : ¬ ∀ c ∈ s.getLast?, c = '\n') :
    (lineChars s).flatMap (· ++ ['\n']) = s ++ ['\n'] := by
  -- the closed part gives itself, and the rest of the last line gets a newline
  obtain ⟨body, tail, rfl, hbody, htail⟩ := exists_closed_append s
  have hne : tail ≠ [] := by
    rintro rfl
    rw [List.append_nil] at h
    exact h hbody
  rw [lineChars_append_of_closed hbody, List.flatMap_append, flatMap_lineChars_of_closed hbody,
    lineChars_of_notMem hne htail, List.flatMap_singleton, List.append_assoc]

end Chars

/-- **Lines, each with a newline behind it.** -/
def unlines (lines : List String) : String := String.join (lines.map (· ++ "\n"))

@[simp] theorem unlines_nil : unlines [] = "" := rfl

@[simp] theorem unlines_cons (line : String) (rest : List String) :
    unlines (line :: rest) = line ++ "\n" ++ unlines rest := by
  simp [unlines]

@[simp] theorem unlines_append (a b : List String) : unlines (a ++ b) = unlines a ++ unlines b := by
  simp [unlines]

theorem toList_unlines (lines : List String) :
    (unlines lines).toList = lines.flatMap fun line => line.toList ++ ['\n'] := by
  rw [unlines, String.toList_join, List.flatMap_map]
  exact List.flatMap_congr fun line _ => String.toList_append

section Texts

variable {s : String}

/-- **A closed text is read to its end** before what stands behind it. -/
theorem lines_append_of_closed (h : Closed s) (t : String) :
    lines (s ++ t) = lines s ++ lines t := by
  unfold lines
  rw [String.toList_append, lineChars_append_of_closed h, List.map_append]

theorem notMem_of_mem_lines {l : String} (h : l ∈ lines s) : '\n' ∉ l.toList := by
  obtain ⟨piece, hpiece, rfl⟩ := List.mem_map.mp h
  rw [String.toList_ofList]
  exact notMem_of_mem_lineChars hpiece

/-- A line alone, with its newline or without. -/
theorem lines_of_notMem {l : String} (hne : l ≠ "") (h : '\n' ∉ l.toList) : lines l = [l] := by
  have hchars : l.toList ≠ [] := fun hnil => hne (String.toList_injective hnil)
  rw [lines, lineChars_of_notMem hchars h, List.map_singleton, String.ofList_toList]

theorem lines_newline {l : String} (h : '\n' ∉ l.toList) (t : String) :
    lines (l ++ "\n" ++ t) = l :: lines t := by
  have hline : (l ++ "\n" ++ t).toList = l.toList ++ '\n' :: t.toList := by
    rw [String.toList_append, String.toList_append, List.append_assoc]
    rfl
  unfold lines
  rw [hline, lineChars_append_newline, List.splitOn_eq_singleton h, List.singleton_append,
    List.map_cons, String.ofList_toList]

/-- **The lines of a text, each with a newline behind it, are the text**, closed where it was
open. -/
theorem unlines_lines (s : String) : unlines (lines s) = if Closed s then s else s ++ "\n" := by
  have hjoin : (unlines (lines s)).toList = (lineChars s.toList).flatMap (· ++ ['\n']) := by
    rw [toList_unlines, lines, List.flatMap_map]
    exact List.flatMap_congr fun l _ => by rw [String.toList_ofList]
  apply String.toList_injective
  rw [hjoin]
  -- only an open text gets a newline it did not have
  by_cases h : Closed s
  · rw [if_pos h, flatMap_lineChars_of_closed h]
  · rw [if_neg h, flatMap_lineChars_of_not_closed h, String.toList_append]
    rfl

end Texts

/-! ### Newlines -/

/-- The number of newlines in a text. -/
def newlines (s : String) : Nat := s.toList.count '\n'

@[simp] theorem newlines_empty : newlines "" = 0 := rfl

@[simp] theorem newlines_append (s t : String) : newlines (s ++ t) = newlines s + newlines t := by
  rw [newlines, String.toList_append, List.count_append, newlines, newlines]

theorem newlines_eq_zero_iff {s : String} : newlines s = 0 ↔ '\n' ∉ s.toList := List.count_eq_zero

/-- Lines have their own newlines, and the ones behind them. -/
theorem newlines_unlines (lines : List String) :
    newlines (unlines lines) = (lines.map newlines).sum + lines.length := by
  induction lines with
  | nil => rfl
  | cons line rest ih =>
    have hnewline : newlines "\n" = 1 := by decide
    rw [unlines_cons, newlines_append, newlines_append, ih, hnewline, List.map_cons, List.sum_cons,
      List.length_cons]
    omega

/-! ### Trimmed texts -/

section Trim

variable {s w : List Char}

/-- What trimming takes away is blank. -/
theorem exists_trimChars (s : List Char) :
    ∃ before after, AllBlank before ∧ AllBlank after ∧ s = before ++ trimChars s ++ after := by
  let rest := s.dropWhile isBlank
  refine ⟨s.takeWhile isBlank, (rest.reverse.takeWhile isBlank).reverse, ?_, ?_, ?_⟩
  · exact fun c hc => List.mem_takeWhile_imp hc
  · exact fun c hc => List.mem_takeWhile_imp (List.mem_reverse.mp hc)
  · -- the rest, read from its end, is blanks and what is left behind them
    have hrest : rest = trimChars s ++ (rest.reverse.takeWhile isBlank).reverse := by
      rw [trimChars, ← List.reverse_append, List.takeWhile_append_dropWhile, List.reverse_reverse]
    rw [List.append_assoc, ← hrest, List.takeWhile_append_dropWhile]

theorem dropWhile_of_isWord (h : IsWord w) (t : List Char) :
    (w ++ t).dropWhile isBlank = w ++ t := by
  -- the first character of a word stops the search
  obtain ⟨c, w, rfl⟩ := List.exists_cons_of_ne_nil h.nonempty
  rw [List.cons_append, List.dropWhile_cons_of_neg]
  simp [h.not_blank c List.mem_cons_self]

theorem IsWord.reverse (h : IsWord w) : IsWord w.reverse :=
  ⟨by simpa using h.nonempty, fun c hc => h.not_blank c (List.mem_reverse.mp hc)⟩

/-- **A word between blanks is what is left of them.** -/
theorem trimChars_of_isWord (h : IsWord w) {before after : List Char} (hbefore : AllBlank before)
    (hafter : AllBlank after) : trimChars (before ++ w ++ after) = w := by
  have hreverse : AllBlank after.reverse := fun c hc => hafter c (List.mem_reverse.mp hc)
  -- the blanks go at either end, and the word stops the search both times
  rw [trimChars, List.append_assoc, List.dropWhile_append_of_pos hbefore, dropWhile_of_isWord h,
    List.reverse_append, List.dropWhile_append_of_pos hreverse,
    ← List.append_nil w.reverse, dropWhile_of_isWord h.reverse, List.append_nil,
    List.reverse_reverse]

theorem trimChars_eq_nil_iff : trimChars s = [] ↔ AllBlank s := by
  constructor
  · intro h
    obtain ⟨before, after, hbefore, hafter, hs⟩ := exists_trimChars s
    -- with nothing left, the text is the blanks that were taken away
    rw [h, List.append_nil] at hs
    intro c hc
    rw [hs] at hc
    rcases List.mem_append.mp hc with hc | hc
    · exact hbefore c hc
    · exact hafter c hc
  · intro h
    rw [trimChars, List.dropWhile_eq_nil_iff.mpr h]
    rfl

/-- **A text is trimmed to nothing where it is blank.** -/
theorem trim_eq_empty_iff {s : String} : (trim s).isEmpty = true ↔ AllBlank s.toList := by
  rw [String.isEmpty_iff, ← trimChars_eq_nil_iff, ← toList_trim]
  exact String.toList_eq_nil_iff.symm

/-- **A text is trimmed to a word where only blanks stand around it.** -/
theorem trim_eq_iff {s w : String} (h : IsWord w.toList) :
    trim s = w ↔ ∃ before after, AllBlank before ∧ AllBlank after ∧
      s.toList = before ++ w.toList ++ after := by
  have hchars : trim s = w ↔ trimChars s.toList = w.toList := by
    rw [← toList_trim, String.toList_inj]
  rw [hchars]
  constructor
  · intro htrim
    obtain ⟨before, after, hbefore, hafter, hs⟩ := exists_trimChars s.toList
    exact ⟨before, after, hbefore, hafter, htrim ▸ hs⟩
  · rintro ⟨before, after, hbefore, hafter, hs⟩
    rw [hs]
    exact trimChars_of_isWord h hbefore hafter

end Trim

end ShellPipeline.Text
