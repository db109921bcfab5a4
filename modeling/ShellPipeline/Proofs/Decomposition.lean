import ShellPipeline.Proofs.Spacing

/-!
# Words as maximal runs

A text falls into runs of blanks and runs of other characters, and its words are the latter. This is
said in two ways that do not speak of how the words are found.

By place: a *maximal run* (`MaximalRun`) is a word that can be extended on neither side, since the
text ends there or a blank stands there. A blank edge cuts the words of a text apart
(`wordChars_append_of_getLast`, `wordChars_append_of_head`), so a maximal run is the word behind
those of the text before it, and every word is found so (`getElem?_wordChars_eq_some_iff`).

By the whole text: it is blanks, and then words with blanks behind each (`Decomposition`), where
only the last word may have none behind it (`Decomposition.Proper`). Reading a decomposed text gives
its words back (`wordChars_chars`). Every text has a decomposition, which grows with the text one
character at a time (`Decomposition.push`, `decompose`), and it has only one: a run ends at the
first character of the other kind, so two decompositions of one text agree run by run (`run_unique`,
`Decomposition.Proper.unique`).

* `blankPoints`, `isBlank_iff` — the blank characters, listed;
* `words_are_maximal_runs` — the law.
-/

namespace ShellPipeline.Text

/-! ### The blank characters -/

/-- **The code points of the blank characters.** -/
def blankPoints : List Nat :=
  [0x09, 0x0A, 0x0B, 0x0C, 0x0D, 0x1C, 0x1D, 0x1E, 0x1F, 0x20, 0x85, 0xA0, 0x1680,
    0x2000, 0x2001, 0x2002, 0x2003, 0x2004, 0x2005, 0x2006, 0x2007, 0x2008, 0x2009, 0x200A,
    0x2028, 0x2029, 0x202F, 0x205F, 0x3000]

theorem isBlank_iff (c : Char) : isBlank c = true ↔ c.toNat ∈ blankPoints := by
  -- neighbours taken together leave intervals on both sides
  have hranges : blankPoints = List.range' 0x09 5 ++ List.range' 0x1C 5 ++ [0x85, 0xA0, 0x1680] ++
      List.range' 0x2000 11 ++ [0x2028, 0x2029, 0x202F, 0x205F, 0x3000] := rfl
  rw [hranges]
  simp only [isBlank, Bool.or_eq_true, Bool.and_eq_true, decide_eq_true_eq, beq_iff_eq,
    List.mem_append, List.mem_range'_1, List.mem_cons, List.not_mem_nil, or_false]
  omega

/-! ### Blank edges -/

/-- A blank at the end of a first part cuts the words apart, as the start of the text does. -/
theorem wordChars_append_of_getLast {before : List Char}
    (h : ∀ c ∈ before.getLast?, isBlank c = true) (s : List Char) :
    wordChars (before ++ s) = wordChars before ++ wordChars s := by
  rcases List.eq_nil_or_concat before with rfl | ⟨init, c, rfl⟩
  · rfl
  · have hc : isBlank c = true := h c (by simp)
    rw [List.concat_eq_append, List.append_assoc, List.singleton_append,
      wordChars_append_blank hc, wordChars_append_blank hc, wordChars_nil, List.append_nil]

/-- A blank at the start of a second part cuts the words apart, as the end of the text does. -/
theorem wordChars_append_of_head {after : List Char} (h : ∀ c ∈ after.head?, isBlank c = true)
    (s : List Char) : wordChars (s ++ after) = wordChars s ++ wordChars after := by
  cases after with
  | nil => rw [List.append_nil, wordChars_nil, List.append_nil]
  | cons c after =>
    have hc : AllBlank [c] := List.forall_mem_singleton.mpr (h c rfl)
    rw [wordChars_append_blank (h c rfl), ← List.singleton_append, wordChars_run_append hc]

/-! ### Maximal runs -/

/-- **A maximal run** of characters that are not blank, with the parts of the text around it. -/
structure MaximalRun (s before w after : List Char) : Prop where
  /-- The text. -/
  text : s = before ++ w ++ after
  /-- The run is a word. -/
  isWord : IsWord w
  /-- It cannot be extended to the left. -/
  left : ∀ c ∈ before.getLast?, isBlank c = true
  /-- It cannot be extended to the right. -/
  right : ∀ c ∈ after.head?, isBlank c = true

/-- A maximal run is the word between the words on its two sides. -/
theorem MaximalRun.wordChars_eq {s before w after : List Char}
    (h : MaximalRun s before w after) :
    wordChars s = wordChars before ++ w :: wordChars after := by
  rw [h.text, List.append_assoc, wordChars_append_of_getLast h.left,
    wordChars_append_of_head h.right, wordChars_of_isWord h.isWord, List.singleton_append]

/-! ### Decompositions -/

/-- A word and the blanks behind it. -/
@[ext]
structure SpacedWord where
  /-- The word. -/
  word : List Char
  /-- The blanks behind it. -/
  gap : List Char
deriving DecidableEq, Repr

/-- **A decomposition of a text**: blanks, and then words with blanks behind each. -/
@[ext]
structure Decomposition where
  /-- The blanks in front of the first word. -/
  margin : List Char
  /-- The words, in order. -/
  row : List SpacedWord
deriving DecidableEq, Repr

/-- The text of a row of words. -/
def rowChars (row : List SpacedWord) : List Char := row.flatMap fun e => e.word ++ e.gap

/-- **Words that are kept apart**: there are blanks behind every word but the last. -/
structure Apart (row : List SpacedWord) : Prop where
  /-- The words are words. -/
  isWord : ∀ e ∈ row, IsWord e.word
  /-- What is behind them is blank. -/
  blank : ∀ e ∈ row, AllBlank e.gap
  /-- Something is behind each but the last. -/
  gap_ne_nil : ∀ e ∈ row.dropLast, e.gap ≠ []

namespace Decomposition

/-- The text that is decomposed. -/
def chars (d : Decomposition) : List Char := d.margin ++ rowChars d.row

/-- The words of a decomposition. -/
def words (d : Decomposition) : List (List Char) := d.row.map (·.word)

/-- **A decomposition into words and runs of blanks.** -/
structure Proper (d : Decomposition) : Prop where
  /-- What is in front of the first word is blank. -/
  margin : AllBlank d.margin
  /-- The words are kept apart. -/
  row : Apart d.row

instance (d : Decomposition) : Decidable d.Proper :=
  decidable_of_iff (AllBlank d.margin ∧ (∀ e ∈ d.row, IsWord e.word) ∧
    (∀ e ∈ d.row, AllBlank e.gap) ∧ ∀ e ∈ d.row.dropLast, e.gap ≠ [])
    ⟨fun h => ⟨h.1, h.2.1, h.2.2.1, h.2.2.2⟩,
      fun h => ⟨h.margin, h.row.isWord, h.row.blank, h.row.gap_ne_nil⟩⟩

end Decomposition

section Rows

variable {e : SpacedWord} {row : List SpacedWord}

theorem rowChars_cons (e : SpacedWord) (row : List SpacedWord) :
    rowChars (e :: row) = e.word ++ (e.gap ++ rowChars row) := by
  rw [rowChars, List.flatMap_cons, List.append_assoc, rowChars]

theorem apart_cons_iff :
    Apart (e :: row) ↔
      IsWord e.word ∧ AllBlank e.gap ∧ (row ≠ [] → e.gap ≠ []) ∧ Apart row := by
  constructor
  · intro h
    refine ⟨h.isWord e List.mem_cons_self, h.blank e List.mem_cons_self, fun hne => ?_,
      ⟨fun x hx => h.isWord x (List.mem_cons_of_mem e hx),
        fun x hx => h.blank x (List.mem_cons_of_mem e hx), fun x hx => ?_⟩⟩
    · exact h.gap_ne_nil e (by rw [List.dropLast_cons_of_ne_nil hne]; exact List.mem_cons_self)
    · have hne : row ≠ [] := fun hnil => by rw [hnil] at hx; cases hx
      refine h.gap_ne_nil x ?_
      rw [List.dropLast_cons_of_ne_nil hne]
      exact List.mem_cons_of_mem e hx
  · rintro ⟨hword, hblank, hgap, hrow⟩
    refine ⟨List.forall_mem_cons.mpr ⟨hword, hrow.isWord⟩,
      List.forall_mem_cons.mpr ⟨hblank, hrow.blank⟩, fun x hx => ?_⟩
    by_cases hne : row = []
    · rw [hne] at hx
      cases hx
    · rw [List.dropLast_cons_of_ne_nil hne] at hx
      rcases List.mem_cons.mp hx with rfl | hx
      · exact hgap hne
      · exact hrow.gap_ne_nil x hx

/-- A row begins with a word, if with anything. -/
theorem Apart.head_not_blank (h : Apart row) : ∀ c ∈ (rowChars row).head?, isBlank c = false := by
  cases row with
  | nil => exact fun c hc => by cases hc
  | cons e row =>
    obtain ⟨hword, -⟩ := apart_cons_iff.mp h
    obtain ⟨d, w, hw⟩ := List.exists_cons_of_ne_nil hword.nonempty
    rw [rowChars_cons, hw]
    rintro c ⟨⟩
    exact hword.not_blank d (by rw [hw]; exact List.mem_cons_self)

/-- Behind a word stands a blank, if anything. -/
theorem Apart.head_blank (h : Apart (e :: row)) :
    ∀ c ∈ (e.gap ++ rowChars row).head?, isBlank c = true := by
  obtain ⟨-, hblank, hgap, -⟩ := apart_cons_iff.mp h
  cases hg : e.gap with
  | nil =>
    -- the word is the last one
    have hrow : row = [] := by
      by_contra hne
      exact hgap hne hg
    rw [hrow]
    exact fun c hc => by cases hc
  | cons d gap =>
    rintro c ⟨⟩
    exact hblank d (by rw [hg]; exact List.mem_cons_self)

/-- **A row of words is read back.** -/
theorem wordChars_rowChars (h : Apart row) : wordChars (rowChars row) = row.map (·.word) := by
  induction row with
  | nil => rfl
  | cons e row ih =>
    obtain ⟨hword, hblank, -, hrow⟩ := apart_cons_iff.mp h
    rw [rowChars_cons, wordChars_append_of_head h.head_blank, wordChars_of_isWord hword,
      wordChars_run_append hblank, ih hrow, List.map_cons, List.singleton_append]

end Rows

/-- **A decomposed text has the words of its decomposition.** -/
theorem wordChars_chars {d : Decomposition} (h : d.Proper) : wordChars d.chars = d.words := by
  rw [Decomposition.chars, wordChars_run_append h.margin, wordChars_rowChars h.row]
  rfl

/-! ### Every text has a decomposition -/

/-- One more character to the left: a blank joins the margin. Any other one joins the first word,
where no blank stands between, and otherwise it begins a word of its own. -/
def Decomposition.push (c : Char) (d : Decomposition) : Decomposition :=
  if isBlank c then ⟨c :: d.margin, d.row⟩
  else
    match d.margin, d.row with
    | [], e :: row => ⟨[], ⟨c :: e.word, e.gap⟩ :: row⟩
    | margin, row => ⟨[], ⟨[c], margin⟩ :: row⟩

/-- **The decomposition of a text.** -/
def decompose (s : List Char) : Decomposition := s.foldr Decomposition.push ⟨[], []⟩

/-- One more character keeps a decomposition proper, and its text grows by that character. -/
theorem Decomposition.Proper.push {d : Decomposition} (h : d.Proper) (c : Char) :
    (d.push c).Proper ∧ (d.push c).chars = c :: d.chars := by
  obtain ⟨margin, row⟩ := d
  cases hc : isBlank c with
  | true =>
    rw [Decomposition.push, if_pos hc]
    exact ⟨⟨List.forall_mem_cons.mpr ⟨hc, h.margin⟩, h.row⟩, rfl⟩
  | false =>
    have hone : IsWord [c] := ⟨List.cons_ne_nil c [], List.forall_mem_singleton.mpr hc⟩
    -- where the character begins a word, the margin is the gap behind it
    have hbegin : (row ≠ [] → margin ≠ []) →
        (Decomposition.mk [] (⟨[c], margin⟩ :: row)).Proper ∧
          (Decomposition.mk [] (⟨[c], margin⟩ :: row)).chars =
            c :: (Decomposition.mk margin row).chars := by
      intro hgap
      exact ⟨⟨List.forall_mem_nil _, apart_cons_iff.mpr ⟨hone, h.margin, hgap, h.row⟩⟩,
        rowChars_cons ⟨[c], margin⟩ row⟩
    rw [Decomposition.push, if_neg (by simp [hc])]
    cases margin with
    | cons b margin => exact hbegin fun _ => List.cons_ne_nil b margin
    | nil =>
      cases row with
      | nil => exact hbegin fun hne => absurd rfl hne
      | cons e row =>
        obtain ⟨hword, hblank, hgap, hrow⟩ := apart_cons_iff.mp h.row
        have hlonger : IsWord (c :: e.word) :=
          ⟨List.cons_ne_nil c e.word, List.forall_mem_cons.mpr ⟨hc, hword.not_blank⟩⟩
        exact ⟨⟨h.margin, apart_cons_iff.mpr ⟨hlonger, hblank, hgap, hrow⟩⟩, rfl⟩

/-- **Every text is decomposed.** -/
theorem decompose_proper (s : List Char) : (decompose s).Proper ∧ (decompose s).chars = s := by
  induction s with
  | nil => exact ⟨by decide, rfl⟩
  | cons c s ih =>
    obtain ⟨hproper, hchars⟩ := ih.1.push c
    rw [ih.2] at hchars
    exact ⟨hproper, hchars⟩

/-- A character that is not blank is in some word. -/
theorem exists_word_of_mem {s : List Char} {c : Char} (h : c ∈ s) (hc : isBlank c = false) :
    ∃ w ∈ wordChars s, c ∈ w := by
  obtain ⟨hproper, hchars⟩ := decompose_proper s
  rw [← hchars] at h ⊢
  rw [wordChars_chars hproper]
  rcases List.mem_append.mp h with hmargin | hrow
  · exact absurd (hproper.margin c hmargin) (by simp [hc])
  · obtain ⟨e, he, hmem⟩ := List.mem_flatMap.mp hrow
    rcases List.mem_append.mp hmem with hword | hgap
    · exact ⟨e.word, List.mem_map_of_mem he, hword⟩
    · exact absurd (hproper.row.blank e he c hgap) (by simp [hc])

/-! ### There is only one -/

/-- **A run ends at the first character of the other kind.** Where two runs of one kind begin a
text, each with nothing of that kind right behind it, they are the same. -/
theorem run_unique {p : Char → Bool} {run run' rest rest' : List Char}
    (hrun : ∀ c ∈ run, p c = true) (hrun' : ∀ c ∈ run', p c = true)
    (hrest : ∀ c ∈ rest.head?, p c = false) (hrest' : ∀ c ∈ rest'.head?, p c = false)
    (h : run ++ rest = run' ++ rest') : run = run' ∧ rest = rest' := by
  -- a run is what is taken off the text while the characters are of its kind
  have htake : ∀ {run rest : List Char}, (∀ c ∈ run, p c = true) →
      (∀ c ∈ rest.head?, p c = false) → (run ++ rest).takeWhile p = run := by
    intro run rest hrun hrest
    rw [List.takeWhile_append_of_pos hrun]
    cases rest with
    | nil => exact List.append_nil run
    | cons c rest =>
      rw [List.takeWhile_cons_of_neg (by simp [hrest c rfl]), List.append_nil]
  have heq : run = run' := by rw [← htake hrun hrest, h, htake hrun' hrest']
  rw [heq] at h
  exact ⟨heq, List.append_cancel_left h⟩

/-- Rows of one text are the same, word by word and gap by gap. -/
theorem Apart.unique {row row' : List SpacedWord} (h : Apart row) (h' : Apart row')
    (heq : rowChars row = rowChars row') : row = row' := by
  have hne : ∀ {e : SpacedWord} {row : List SpacedWord}, Apart (e :: row) →
      rowChars (e :: row) ≠ [] := by
    intro e row h hnil
    obtain ⟨hword, -⟩ := apart_cons_iff.mp h
    rw [rowChars_cons] at hnil
    exact hword.nonempty (List.append_eq_nil_iff.mp hnil).1
  induction row generalizing row' with
  | nil =>
    cases row' with
    | nil => rfl
    | cons e' row' => exact absurd heq.symm (hne h')
  | cons e row ih =>
    cases row' with
    | nil => exact absurd heq (hne h)
    | cons e' row' =>
      obtain ⟨hword, hblank, -, hrow⟩ := apart_cons_iff.mp h
      obtain ⟨hword', hblank', -, hrow'⟩ := apart_cons_iff.mp h'
      rw [rowChars_cons, rowChars_cons] at heq
      -- the word ends at the first blank, and the gap at the first character that is none
      obtain ⟨hwords, heq⟩ := run_unique (p := fun c => !isBlank c)
        (fun c hc => by simp [hword.not_blank c hc]) (fun c hc => by simp [hword'.not_blank c hc])
        (fun c hc => by simp [h.head_blank c hc]) (fun c hc => by simp [h'.head_blank c hc]) heq
      obtain ⟨hgaps, heq⟩ :=
        run_unique hblank hblank' hrow.head_not_blank hrow'.head_not_blank heq
      rw [SpacedWord.ext hwords hgaps, ih hrow hrow' heq]

/-- **A text has one decomposition only.** -/
theorem Decomposition.Proper.unique {d d' : Decomposition} (h : d.Proper) (h' : d'.Proper)
    (heq : d.chars = d'.chars) : d = d' := by
  obtain ⟨hmargin, hrows⟩ :=
    run_unique h.margin h'.margin h.row.head_not_blank h'.row.head_not_blank heq
  exact Decomposition.ext hmargin (h.row.unique h'.row hrows)

/-! ### Every word is a maximal run -/

/-- Every word of a row is a maximal run, behind any text that ends in a blank or is empty. -/
theorem Apart.exists_maximalRun {row : List SpacedWord} (h : Apart row) {front : List Char}
    (hfront : ∀ c ∈ front.getLast?, isBlank c = true) {k : Nat} {e : SpacedWord}
    (hk : row[k]? = some e) :
    ∃ before after, MaximalRun (front ++ rowChars row) before e.word after ∧
      (wordChars before).length = (wordChars front).length + k := by
  induction row generalizing front k with
  | nil => cases hk
  | cons first row ih =>
    obtain ⟨hword, hblank, hgap, hrow⟩ := apart_cons_iff.mp h
    cases k with
    | zero =>
      cases hk
      exact ⟨front, e.gap ++ rowChars row,
        ⟨by rw [rowChars_cons, List.append_assoc], hword, hfront, h.head_blank⟩, rfl⟩
    | succ k =>
      -- another word follows, so the first one has a blank behind it
      have hne : first.gap ≠ [] := hgap fun hnil => by rw [hnil] at hk; cases hk
      have hlast : ∀ c ∈ (front ++ (first.word ++ first.gap)).getLast?, isBlank c = true := by
        intro c hc
        rw [← List.append_assoc, List.getLast?_append_of_ne_nil _ hne] at hc
        exact hblank c (List.mem_of_getLast? hc)
      have hwords : wordChars (front ++ (first.word ++ first.gap)) =
          wordChars front ++ [first.word] := by
        rw [wordChars_append_of_getLast hfront, wordChars_append_run_nil hblank,
          wordChars_of_isWord hword]
      obtain ⟨before, after, hrun, hlength⟩ := ih hrow hlast hk
      rw [hwords, List.length_append, List.length_singleton] at hlength
      have htext : front ++ rowChars (first :: row) =
          front ++ (first.word ++ first.gap) ++ rowChars row := by
        rw [rowChars_cons, List.append_assoc, List.append_assoc]
      rw [htext]
      exact ⟨before, after, hrun, by omega⟩

/-- **The words of a text are its maximal runs**, in order: each is the word behind those of the
text before it. -/
theorem getElem?_wordChars_eq_some_iff {s w : List Char} {k : Nat} :
    (wordChars s)[k]? = some w ↔
      ∃ before after, MaximalRun s before w after ∧ (wordChars before).length = k := by
  constructor
  · intro h
    obtain ⟨hproper, hchars⟩ := decompose_proper s
    rw [← hchars, wordChars_chars hproper, Decomposition.words, List.getElem?_map,
      Option.map_eq_some_iff] at h
    obtain ⟨e, hk, rfl⟩ := h
    have hmargin : ∀ c ∈ (decompose s).margin.getLast?, isBlank c = true :=
      fun c hc => hproper.margin c (List.mem_of_getLast? hc)
    obtain ⟨before, after, hrun, hlength⟩ := hproper.row.exists_maximalRun hmargin hk
    rw [← Decomposition.chars, hchars] at hrun
    -- a margin has no words
    rw [wordChars_eq_nil_iff.mpr hproper.margin, List.length_nil, Nat.zero_add] at hlength
    exact ⟨before, after, hrun, hlength⟩
  · rintro ⟨before, after, hrun, rfl⟩
    rw [hrun.wordChars_eq, List.getElem?_append_right (Nat.le_refl _), Nat.sub_self]
    rfl

/-! ### The rule -/

/-- **The words of a text are its maximal runs of characters that are not blank.** No word is empty
or holds a blank, and the word at each place is the maximal run that has so many words before it.
The text is blanks and words in turn, with at least one blank between two words, in one way only,
and whatever words and blanks a text is put together from in that way, its words are those. The
blank characters are the listed ones, so a zero-width space, a vowel separator or a byte order mark
is a character of some word. -/
theorem words_are_maximal_runs (segment : String) :
    (∀ w ∈ words segment, w ≠ "" ∧ ∀ c ∈ w.toList, isBlank c = false) ∧
    (∀ (k : Nat) (w : String), (words segment)[k]? = some w ↔
      ∃ before after, MaximalRun segment.toList before w.toList after ∧
        (wordChars before).length = k) ∧
    (∃! d : Decomposition, d.Proper ∧ d.chars = segment.toList) ∧
    (∀ d : Decomposition, d.Proper → d.chars = segment.toList →
      words segment = d.words.map String.ofList) ∧
    (∀ c, isBlank c = true ↔ c.toNat ∈ blankPoints) ∧
    ∀ c ∈ ['\u200B', '\u180E', '\uFEFF'], c ∈ segment.toList →
      ∃ w ∈ words segment, c ∈ w.toList := by
  obtain ⟨hproper, hchars⟩ := decompose_proper segment.toList
  refine ⟨fun w hw => ?_, fun k w => ?_, ?_, fun d hd hd' => ?_, isBlank_iff, fun c hc hmem => ?_⟩
  · have hword := isWord_of_mem_words hw
    exact ⟨fun h => hword.nonempty (String.toList_eq_nil_iff.mpr h), hword.not_blank⟩
  · rw [← getElem?_wordChars_eq_some_iff, words, List.getElem?_map, Option.map_eq_some_iff]
    constructor
    · rintro ⟨x, hx, rfl⟩
      rw [String.toList_ofList]
      exact hx
    · exact fun h => ⟨w.toList, h, String.ofList_toList⟩
  · exact ⟨decompose segment.toList, ⟨hproper, hchars⟩,
      fun d hd => hd.1.unique hproper (hd.2.trans hchars.symm)⟩
  · rw [words, ← hd', wordChars_chars hd]
  · have hnone : (['\u200B', '\u180E', '\uFEFF'].all fun c => !isBlank c) = true := by decide
    have hblank : isBlank c = false := by simpa using List.all_eq_true.mp hnone c hc
    obtain ⟨x, hx, hcx⟩ := exists_word_of_mem hmem hblank
    exact ⟨String.ofList x, List.mem_map_of_mem hx, by rwa [String.toList_ofList]⟩

/-- A tab before, an ideographic space and a space between, and nothing behind words that hold a
zero-width space and a byte order mark. -/
theorem words_are_maximal_runs_zero_width :
    let d : Decomposition := ⟨['\t'], [⟨['a', '\u200B', 'b'], ['\u3000', ' ']⟩, ⟨['\uFEFF'], []⟩]⟩
    let segment := "\ta\u200Bb\u3000 \uFEFF"
    d.Proper ∧ d.chars = segment.toList ∧ words segment = ["a\u200Bb", "\uFEFF"] ∧
      (∃ before after, MaximalRun segment.toList before "\uFEFF".toList after ∧
        (wordChars before).length = 1) ∧
      ∃ w ∈ words segment, '\u200B' ∈ w.toList := by
  intro d segment
  have hproper : d.Proper := by decide
  have hchars : d.chars = segment.toList := by decide +kernel
  obtain ⟨-, hruns, -, hread, -, hinside⟩ := words_are_maximal_runs segment
  have hwords : words segment = ["a\u200Bb", "\uFEFF"] := hread d hproper hchars
  refine ⟨hproper, hchars, hwords, (hruns 1 "\uFEFF").mp ?_, hinside '\u200B' (by decide) ?_⟩
  · rw [hwords]
    rfl
  · decide +kernel

end ShellPipeline.Text
