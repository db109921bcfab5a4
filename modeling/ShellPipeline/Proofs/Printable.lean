import ShellPipeline.Proofs.Stripping
import ShellPipeline.Trace

/-!
# Texts of printable characters

No character that may end a line is printable, and the escape character is not, either. So a text of
printable characters is one line, and nothing of it is stripped. Quoting makes such a text of any
text: a character between the marks is kept only if it is printable, and what an escape is written
with is printable. Numbers and the lists of words that a report shows are printable, too.

* `AllPrintable` — the texts of printable characters;
* `OneLine` — the texts without a character that may end a line;
* `allPrintable_quote`, `allPrintable_toString` — quoted texts and numbers;
* `AllPrintable.oneLine`, `AllPrintable.stripSequences` — what is known of such a text.
-/

namespace ShellPipeline.Text

/-- **A text that holds nothing but printable characters.** -/
def AllPrintable (s : String) : Prop := ∀ c ∈ s.toList, isPrintable c = true

instance (s : String) : Decidable (AllPrintable s) :=
  -- Through `List.all`: a quantifier over characters can be decided by trying every character.
  decidable_of_iff (s.toList.all isPrintable = true) List.all_eq_true

/-- **The characters that may end a line** for one reader of texts or another. -/
def lineBreaks : List Char :=
  ['\n', '\r', '\x0b', '\x0c', '\x1c', '\x1d', '\x1e', '\u0085', '\u2028', '\u2029']

/-- **A text that is one line** for every reader. -/
def OneLine (s : String) : Prop := ∀ c ∈ s.toList, c ∉ lineBreaks

instance (s : String) : Decidable (OneLine s) :=
  -- Through `List.all`: a quantifier over characters can be decided by trying every character.
  decidable_of_iff (s.toList.all (· ∉ lineBreaks) = true) <| by
    simp only [List.all_eq_true, decide_eq_true_iff, OneLine]

section Texts

variable {s t : String}

theorem AllPrintable.append (hs : AllPrintable s) (ht : AllPrintable t) :
    AllPrintable (s ++ t) := by
  intro c hc
  rw [String.toList_append] at hc
  rcases List.mem_append.mp hc with hc | hc
  · exact hs c hc
  · exact ht c hc

/-- Printable texts with a printable one between any two of them. -/
theorem AllPrintable.intercalate (hs : AllPrintable s) {pieces : List String}
    (h : ∀ piece ∈ pieces, AllPrintable piece) : AllPrintable (s.intercalate pieces) := by
  intro c hc
  rw [String.toList_intercalate] at hc
  obtain hc | ⟨chars, hchars, hc⟩ := mem_intercalate hc
  · exact hs c hc
  · obtain ⟨piece, hpiece, rfl⟩ := List.mem_map.mp hchars
    exact h piece hpiece c hc

theorem AllPrintable.notMem_escape (h : AllPrintable s) : '\x1b' ∉ s.toList := by
  intro hc
  have hprintable := h _ hc
  revert hprintable
  decide

theorem OneLine.append (hs : OneLine s) (ht : OneLine t) : OneLine (s ++ t) := by
  intro c hc
  rw [String.toList_append] at hc
  rcases List.mem_append.mp hc with hc | hc
  · exact hs c hc
  · exact ht c hc

/-- The newline is one of the characters that may end a line. -/
theorem OneLine.newlines (h : OneLine s) : Text.newlines s = 0 := by
  rw [newlines_eq_zero_iff]
  exact fun hmem => h _ hmem (by decide)

/-- **A printable text is one line.** -/
theorem AllPrintable.oneLine (h : AllPrintable s) : OneLine s := by
  -- each of the ten characters is in the table of what is not printable
  have hbreaks : lineBreaks.all (fun c => !isPrintable c) = true := by decide +kernel
  intro c hc hmem
  have hnot := List.all_eq_true.mp hbreaks c hmem
  rw [h c hc] at hnot
  cases hnot

theorem AllPrintable.newlines (h : AllPrintable s) : Text.newlines s = 0 := h.oneLine.newlines

/-- **Nothing of a printable text is stripped.** -/
theorem AllPrintable.stripSequences (h : AllPrintable s) : Text.stripSequences s = s :=
  stripSequences_of_notMem h.notMem_escape

/-- A printable line keeps its newline, too. -/
theorem AllPrintable.stripSequences_line (h : AllPrintable s) :
    Text.stripSequences (s ++ "\n") = s ++ "\n" := by
  rw [stripSequences_append_newline, h.stripSequences]

end Texts

/-! ### Quoted texts -/

section Quoted

theorem isPrintable_digitChar {n : Nat} (h : n < 16) : isPrintable (Nat.digitChar n) = true := by
  -- sixteen characters, each looked up
  have hall : ∀ n < 16, isPrintable (Nat.digitChar n) = true := by decide
  exact hall n h

theorem isPrintable_of_mem_hexDigits {width n : Nat} {c : Char} (h : c ∈ hexDigits width n) :
    isPrintable c = true := by
  induction width generalizing n with
  | zero => exact absurd h List.not_mem_nil
  | succ width ih =>
    rw [hexDigits] at h
    rcases List.mem_append.mp h with h | h
    · exact ih h
    · rw [List.mem_singleton.mp h]
      exact isPrintable_digitChar (Nat.mod_lt n (by decide))

theorem isPrintable_of_mem_escapeByNumber {n : Nat} {c : Char} (h : c ∈ escapeByNumber n) :
    isPrintable c = true := by
  -- a backslash, a letter for the width, and digits
  have hescape : ∀ {letter : Char} {width : Nat}, isPrintable letter = true →
      c ∈ '\\' :: letter :: hexDigits width n → isPrintable c = true := by
    intro letter width hletter hc
    rcases List.mem_cons.mp hc with rfl | hc
    · decide
    · rcases List.mem_cons.mp hc with rfl | hc
      · exact hletter
      · exact isPrintable_of_mem_hexDigits hc
  -- the width depends on the number, the shape does not
  unfold escapeByNumber at h
  split at h
  · exact hescape (by decide) h
  · split at h
    · exact hescape (by decide) h
    · exact hescape (by decide) h

theorem isPrintable_markFor (s : List Char) : isPrintable (markFor s) = true := by
  unfold markFor
  split <;> decide

/-- **A character between the marks is printable**, or it is written with characters that are. -/
theorem isPrintable_of_mem_escapeChar {mark c d : Char} (hmark : isPrintable mark = true)
    (h : d ∈ escapeChar mark c) : isPrintable d = true := by
  have hnamed : ∀ {name : Char}, isPrintable name = true → d ∈ ['\\', name] →
      isPrintable d = true := by
    intro name hname hd
    rcases List.mem_cons.mp hd with rfl | hd
    · decide
    · rw [List.mem_singleton.mp hd]
      exact hname
  -- the tests in their order: the marks, the three names, the rest
  unfold escapeChar at h
  split at h
  · rename_i hc
    refine hnamed ?_ h
    rcases hc with rfl | rfl
    · exact hmark
    · decide
  split at h
  · exact hnamed (by decide) h
  split at h
  · exact hnamed (by decide) h
  split at h
  · exact hnamed (by decide) h
  split at h
  · rename_i hprintable
    rwa [List.mem_singleton.mp h]
  · exact isPrintable_of_mem_escapeByNumber h

/-- **A quoted text is printable**, whatever it quotes. -/
theorem allPrintable_quote (s : String) : AllPrintable (quote s) := by
  intro c hc
  rw [toList_quote, quoteChars] at hc
  have hmark := isPrintable_markFor s.toList
  -- a mark, what stands between the marks, and the mark again
  rcases List.mem_cons.mp hc with rfl | hc
  · exact hmark
  · rcases List.mem_append.mp hc with hc | hc
    · obtain ⟨d, -, hd⟩ := List.mem_flatMap.mp hc
      exact isPrintable_of_mem_escapeChar hmark hd
    · rw [List.mem_singleton.mp hc]
      exact hmark

end Quoted

/-! ### Numbers -/

theorem isPrintable_of_isDigit {c : Char} (h : c.isDigit = true) : isPrintable c = true := by
  have hrange : 48 ≤ c.toNat ∧ c.toNat ≤ 57 := by
    simpa [Char.isDigit, UInt32.le_iff_toNat_le] using h
  -- the digits are among the characters that are decided without the table
  have hsmall : c.toNat < 0x7F := by omega
  have hlarge : 0x20 ≤ c.toNat := by omega
  simp [isPrintable, hsmall, hlarge]

theorem allPrintable_repr (n : Nat) : AllPrintable n.repr := by
  intro c hc
  rw [Nat.toList_repr] at hc
  exact isPrintable_of_isDigit (Nat.isDigit_of_mem_toDigits (by decide) (by decide) hc)

/-- **A number is printable.** -/
theorem allPrintable_toString (i : Int) : AllPrintable (toString i) := by
  cases i with
  | ofNat n => exact allPrintable_repr n
  | negSucc n =>
    have hminus : AllPrintable "-" := by decide
    exact hminus.append (allPrintable_repr (n + 1))

end ShellPipeline.Text

namespace ShellPipeline

open Text (AllPrintable)

/-- The list of words that a report shows is printable, whatever the words are. -/
theorem allPrintable_quoteList (items : List String) : AllPrintable (quoteList items) := by
  have hopen : AllPrintable "[" := by decide
  have hcomma : AllPrintable ", " := by decide
  have hclose : AllPrintable "]" := by decide
  refine (hopen.append (hcomma.intercalate fun piece hpiece => ?_)).append hclose
  obtain ⟨item, -, rfl⟩ := List.mem_map.mp hpiece
  exact Text.allPrintable_quote item

end ShellPipeline
