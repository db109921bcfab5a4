import ShellPipeline.Text.Words
import Mathlib.Data.List.Basic

/-!
# Words and blanks

The words of a text are its maximal runs of characters that are not blank. `words` finds them from
the right, with a word that is still open at its left end. What is needed of it is said here without
the open word:

* `wordChars_append_blank` — a blank cuts a text into two, each with words of its own;
* `wordChars_of_isWord` — a text that is one word;
* `isWord_of_mem_wordChars`, `mem_of_mem_wordChars` — what is found are words, and their characters
  are those of the text;
* `wordChars_intercalate_blank` — pieces with one blank between them have the words of all;
* `words_intercalate` — words with one blank between them are read back.
-/

namespace ShellPipeline.Text

/-- **A word**: characters that are not blank, and at least one of them. -/
structure IsWord (w : List Char) : Prop where
  /-- It is not empty. -/
  nonempty : w ≠ []
  /-- It has no blank. -/
  not_blank : ∀ c ∈ w, isBlank c = false

instance (w : List Char) : Decidable (IsWord w) :=
  -- Through `List.all`: a quantifier over characters can be decided by trying every character.
  decidable_of_iff (w ≠ [] ∧ (w.all fun c => !isBlank c) = true) <| by
    rw [List.all_eq_true]
    exact ⟨fun h => ⟨h.1, fun c hc => by simpa using h.2 c hc⟩,
      fun h => ⟨h.1, fun c hc => by simp [h.2 c hc]⟩⟩

/-! ### Reading past a blank -/

theorem close_append (head : List Char) (a b : List (List Char)) :
    (OpenWords.mk head (a ++ b)).close = (OpenWords.mk head a).close ++ b := by
  unfold OpenWords.close
  split <;> rfl

/-- Words that were finished before a text is read stay behind its own words. -/
theorem foldr_push_closed (s : List Char) (done : List (List Char)) :
    s.foldr OpenWords.push ⟨[], done⟩ =
      ⟨(s.foldr OpenWords.push .empty).head, (s.foldr OpenWords.push .empty).tail ++ done⟩ := by
  induction s with
  | nil => rfl
  | cons c s ih =>
    rw [List.foldr_cons, List.foldr_cons, ih]
    cases hc : isBlank c with
    | true =>
      -- the open word joins the finished ones, in front of those that were there
      rw [OpenWords.push_of_blank hc, OpenWords.push_of_blank hc, close_append]
    | false =>
      rw [OpenWords.push_of_not_blank hc, OpenWords.push_of_not_blank hc]

/-- **A blank cuts a text into two**, and the words are those of either part. -/
theorem wordChars_append_blank {b : Char} (hb : isBlank b = true) (s t : List Char) :
    wordChars (s ++ b :: t) = wordChars s ++ wordChars t := by
  unfold wordChars
  -- the blank finishes the words behind it, and they stay as they are from there on
  rw [List.foldr_append, List.foldr_cons, OpenWords.push_of_blank hb, foldr_push_closed,
    close_append]

/-! ### Texts without a blank -/

theorem foldr_push_of_not_blank {w : List Char} (h : ∀ c ∈ w, isBlank c = false) :
    w.foldr OpenWords.push .empty = ⟨w, []⟩ := by
  induction w with
  | nil => rfl
  | cons c w ih =>
    rw [List.foldr_cons, ih fun d hd => h d (List.mem_cons_of_mem c hd),
      OpenWords.push_of_not_blank (h c List.mem_cons_self)]

theorem wordChars_of_isWord {w : List Char} (h : IsWord w) : wordChars w = [w] := by
  unfold wordChars
  rw [foldr_push_of_not_blank h.not_blank]
  simp [OpenWords.close, h.nonempty]

/-! ### What is found -/

/-- **What the right part of a text is read into.** No character of the open word is blank, every
finished word is one, and all their characters are those of the text. -/
structure OpenWords.Of (s : List Char) (w : OpenWords) : Prop where
  /-- The open word. -/
  head : ∀ c ∈ w.head, isBlank c = false ∧ c ∈ s
  /-- The finished words. -/
  tail : ∀ x ∈ w.tail, IsWord x ∧ ∀ c ∈ x, c ∈ s

theorem OpenWords.Of.close {s : List Char} {w : OpenWords} (h : w.Of s) :
    ∀ x ∈ w.close, IsWord x ∧ ∀ c ∈ x, c ∈ s := by
  intro x hx
  unfold OpenWords.close at hx
  split at hx
  · exact h.tail x hx
  · next hne =>
    rcases List.mem_cons.mp hx with rfl | hx
    · refine ⟨⟨fun hnil => hne ?_, fun c hc => (h.head c hc).1⟩, fun c hc => (h.head c hc).2⟩
      rw [hnil]
      rfl
    · exact h.tail x hx

/-- One more character keeps the invariant. -/
theorem OpenWords.Of.push {s : List Char} {w : OpenWords} (h : w.Of s) (c : Char) :
    (w.push c).Of (c :: s) := by
  have hmono : ∀ {x : List Char}, (∀ d ∈ x, d ∈ s) → ∀ d ∈ x, d ∈ c :: s :=
    fun hx d hd => List.mem_cons_of_mem c (hx d hd)
  cases hc : isBlank c with
  | true =>
    -- no word is open behind a blank, and the one that was open is finished
    rw [OpenWords.push_of_blank hc]
    refine ⟨fun d hd => absurd hd List.not_mem_nil, fun x hx => ?_⟩
    exact ⟨(h.close x hx).1, hmono (h.close x hx).2⟩
  | false =>
    -- the finished words are untouched
    rw [OpenWords.push_of_not_blank hc]
    refine ⟨fun d hd => ?_, fun x hx => ⟨(h.tail x hx).1, hmono (h.tail x hx).2⟩⟩
    rcases List.mem_cons.mp hd with rfl | hd
    · exact ⟨hc, List.mem_cons_self⟩
    · exact ⟨(h.head d hd).1, List.mem_cons_of_mem c (h.head d hd).2⟩

theorem of_foldr_push (s : List Char) : (s.foldr OpenWords.push .empty).Of s := by
  induction s with
  | nil => exact ⟨fun c hc => absurd hc List.not_mem_nil, fun x hx => absurd hx List.not_mem_nil⟩
  | cons c s ih => exact ih.push c

/-- **What is found are words**, and their characters are those of the text. -/
theorem isWord_of_mem_wordChars {s w : List Char} (h : w ∈ wordChars s) : IsWord w :=
  ((of_foldr_push s).close w h).1

theorem mem_of_mem_wordChars {s w : List Char} (h : w ∈ wordChars s) {c : Char} (hc : c ∈ w) :
    c ∈ s :=
  ((of_foldr_push s).close w h).2 c hc

/-! ### Words of texts -/

theorem isWord_of_mem_words {s w : String} (h : w ∈ words s) : IsWord w.toList := by
  obtain ⟨x, hx, rfl⟩ := List.mem_map.mp h
  rw [String.toList_ofList]
  exact isWord_of_mem_wordChars hx

theorem mem_of_mem_words {s w : String} (h : w ∈ words s) {c : Char} (hc : c ∈ w.toList) :
    c ∈ s.toList := by
  obtain ⟨x, hx, rfl⟩ := List.mem_map.mp h
  rw [String.toList_ofList] at hc
  exact mem_of_mem_wordChars hx hc

/-- Pieces with one blank between them have the words of all pieces, in order. -/
theorem wordChars_intercalate_blank {b : Char} (hb : isBlank b = true)
    (pieces : List (List Char)) :
    wordChars ([b].intercalate pieces) = pieces.flatMap wordChars := by
  induction pieces with
  | nil => rfl
  | cons piece pieces ih =>
    cases pieces with
    | nil => rw [List.intercalate_singleton, List.flatMap_singleton]
    | cons next pieces =>
      rw [List.intercalate_cons_cons, List.append_assoc, List.singleton_append,
        wordChars_append_blank hb, ih]
      exact List.flatMap_cons.symm

/-- Words with one blank between them are read back. -/
theorem wordChars_intercalate {b : Char} (hb : isBlank b = true) {ws : List (List Char)}
    (h : ∀ w ∈ ws, IsWord w) : wordChars ([b].intercalate ws) = ws :=
  calc wordChars ([b].intercalate ws)
      = ws.flatMap wordChars := wordChars_intercalate_blank hb ws
    _ = ws.flatMap fun w => [w] := List.flatMap_congr fun w hw => wordChars_of_isWord (h w hw)
    _ = ws := List.flatMap_singleton' ws

/-- **Words with a space between them are read back.** -/
theorem words_intercalate {ws : List String} (h : ∀ w ∈ ws, IsWord w.toList) :
    words (" ".intercalate ws) = ws := by
  have hchars : ∀ x ∈ ws.map String.toList, IsWord x := by
    intro x hx
    obtain ⟨w, hw, rfl⟩ := List.mem_map.mp hx
    exact h w hw
  have hspace : " ".toList = [' '] := rfl
  -- the claim for characters, between two translations that cancel
  unfold words
  rw [String.toList_intercalate, hspace, wordChars_intercalate (by decide) hchars, List.map_map]
  exact (List.map_congr_left fun w _ => String.ofList_toList).trans (List.map_id ws)

end ShellPipeline.Text
