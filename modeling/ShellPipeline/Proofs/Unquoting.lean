import Mathlib.Algebra.Ring.Nat
import ShellPipeline.Trace

/-!
# Quoted texts are read back

What stands between two quote marks is read one character at a time (`readChar`): a backslash and
the letter behind it say whether a name follows, or a number and with how many digits, or the
character itself, and anything but a backslash stands for itself. Reading gives back the character
that was written and leaves what was written behind it, whatever that is (`readChar_escapeChar`). So
no character can be read in two ways, and none begins like the closing mark.

From there on it is a matter of texts behind texts. A quoted text says by its first character which
mark it uses, and ends at the first one that is read as such (`quoteChars_append_injective`). A list
of quoted texts goes on behind each of them with a comma or with the bracket that closes it
(`quoteList_injective`).
-/

namespace ShellPipeline

namespace Text

/-! ### Numbers in hexadecimal -/

/-- The value of a hexadecimal digit in lower case. -/
def digitValue (c : Char) : Nat := if c.toNat < 58 then c.toNat - 48 else c.toNat - 87

/-- The number that hexadecimal digits write. -/
def hexNumber (digits : List Char) : Nat := digits.foldl (fun n c => n * 16 + digitValue c) 0

theorem digitValue_digitChar {n : Nat} (h : n < 16) : digitValue (Nat.digitChar n) = n := by
  -- sixteen digits, each read
  have hall : ∀ n < 16, digitValue (Nat.digitChar n) = n := by decide
  exact hall n h

theorem length_hexDigits (width n : Nat) : (hexDigits width n).length = width := by
  induction width generalizing n with
  | zero => rfl
  | succ width ih => rw [hexDigits, List.length_append, ih, List.length_singleton]

theorem hexNumber_concat (digits : List Char) (c : Char) :
    hexNumber (digits ++ [c]) = hexNumber digits * 16 + digitValue c := by
  rw [hexNumber, List.foldl_append]
  rfl

/-- Digits write the number again, as far as it fits. -/
theorem hexNumber_hexDigits (width n : Nat) : hexNumber (hexDigits width n) = n % 16 ^ width := by
  induction width generalizing n with
  | zero => exact (Nat.mod_one n).symm
  | succ width ih =>
    rw [hexDigits, hexNumber_concat, ih, digitValue_digitChar (Nat.mod_lt n (by decide)),
      Nat.pow_succ, Nat.mul_comm (16 ^ width), Nat.mod_mul]
    omega

/-! ### One character -/

/-- How many digits the letter behind a backslash announces. -/
def widthOf? (letter : Char) : Option Nat :=
  if letter = 'x' then some 2
  else if letter = 'u' then some 4
  else if letter = 'U' then some 8
  else none

/-- The character that a letter behind a backslash names. -/
def namedChar (letter : Char) : Char :=
  if letter = 't' then '\t'
  else if letter = 'n' then '\n'
  else if letter = 'r' then '\r'
  else letter

/-- Reads one character, with the backslash read already. -/
def readEscape : List Char → Option (Char × List Char)
  | [] => none
  | letter :: rest =>
    match widthOf? letter with
    | some width => some (.ofNat (hexNumber (rest.take width)), rest.drop width)
    | none => some (namedChar letter, rest)

/-- **Reads one character** of those between quote marks, and gives what stands behind it. -/
def readChar : List Char → Option (Char × List Char)
  | [] => none
  | c :: rest => if c = '\\' then readEscape rest else some (c, rest)

/-- The quote marks. -/
def IsMark (c : Char) : Prop := c = '\'' ∨ c = '"'

theorem isMark_markFor (s : List Char) : IsMark (markFor s) := by
  unfold markFor
  split
  · exact .inr rfl
  · exact .inl rfl

/-- A number with enough digits is read back. -/
theorem readEscape_hexDigits (letter : Char) {width : Nat} (hwidth : widthOf? letter = some width)
    {c : Char} (hc : c.toNat < 16 ^ width) (rest : List Char) :
    readEscape (letter :: (hexDigits width c.toNat ++ rest)) = some (c, rest) := by
  have htake : (hexDigits width c.toNat ++ rest).take width = hexDigits width c.toNat :=
    List.take_left' (length_hexDigits width c.toNat)
  have hdrop : (hexDigits width c.toNat ++ rest).drop width = rest :=
    List.drop_left' (length_hexDigits width c.toNat)
  rw [readEscape, hwidth]
  dsimp only
  rw [htake, hdrop, hexNumber_hexDigits, Nat.mod_eq_of_lt hc, Char.ofNat_toNat]

theorem readChar_escapeByNumber (c : Char) (rest : List Char) :
    readChar (escapeByNumber c.toNat ++ rest) = some (c, rest) := by
  -- the form that is chosen has room for the number
  unfold escapeByNumber
  split
  · next h => exact readEscape_hexDigits 'x' rfl h rest
  · split
    · next h => exact readEscape_hexDigits 'u' rfl h rest
    · have hvalid : c.toNat < 16 ^ 8 := c.val.toNat_lt
      exact readEscape_hexDigits 'U' rfl hvalid rest

section Marks

variable {mark : Char}

/-- **A character between marks is read back**, whatever stands behind it. -/
theorem readChar_escapeChar (hmark : IsMark mark) (c : Char) (rest : List Char) :
    readChar (escapeChar mark c ++ rest) = some (c, rest) := by
  -- the tests in their order: the marks, the three names, the rest
  unfold escapeChar
  split
  · next h =>
    rcases h with rfl | rfl
    · rcases hmark with rfl | rfl <;> rfl
    · rfl
  · next h =>
    split
    · next htab => rw [htab]; rfl
    split
    · next hnewline => rw [hnewline]; rfl
    split
    · next hreturn => rw [hreturn]; rfl
    split
    · have hplain : c ≠ '\\' := fun heq => h (.inr heq)
      rw [List.singleton_append, readChar, if_neg hplain]
    · exact readChar_escapeByNumber c rest

/-- A character between marks does not begin like the closing mark. -/
theorem escapeChar_append_ne (hmark : IsMark mark) (c : Char) (u v : List Char) :
    escapeChar mark c ++ u ≠ mark :: v := by
  have hbackslash : '\\' ≠ mark := by rcases hmark with rfl | rfl <;> decide
  have hescape : ∀ s t : List Char, '\\' :: s ≠ mark :: t := fun s t h =>
    hbackslash (List.cons.inj h).1
  unfold escapeChar
  split
  · exact hescape _ _
  · next h =>
    split
    · exact hescape _ _
    split
    · exact hescape _ _
    split
    · exact hescape _ _
    split
    · exact fun heq => h (.inl (List.cons.inj heq).1)
    · unfold escapeByNumber
      split
      · exact hescape _ _
      · split <;> exact hescape _ _

/-- **Up to the closing mark a text is read in one way.** -/
theorem flatMap_escapeChar_append_injective (hmark : IsMark mark) {s t u v : List Char}
    (h : s.flatMap (escapeChar mark) ++ mark :: u = t.flatMap (escapeChar mark) ++ mark :: v) :
    s = t ∧ u = v := by
  induction s generalizing t with
  | nil =>
    cases t with
    | nil => exact ⟨rfl, (List.cons.inj h).2⟩
    | cons d t =>
      -- one text ends where the other goes on
      rw [List.flatMap_cons, List.append_assoc] at h
      exact absurd h.symm (escapeChar_append_ne hmark d _ _)
  | cons c s ih =>
    cases t with
    | nil =>
      rw [List.flatMap_cons, List.append_assoc] at h
      exact absurd h (escapeChar_append_ne hmark c _ _)
    | cons d t =>
      -- the first characters are read, and so is what stands behind them
      have hread := congrArg readChar h
      rw [List.flatMap_cons, List.flatMap_cons, List.append_assoc, List.append_assoc,
        readChar_escapeChar hmark, readChar_escapeChar hmark] at hread
      obtain ⟨rfl, hrest⟩ := Prod.mk.inj (Option.some.inj hread)
      obtain ⟨rfl, hbehind⟩ := ih hrest
      exact ⟨rfl, hbehind⟩

end Marks

/-! ### Quoted texts -/

/-- **A quoted text is read in one way**, whatever stands behind it. -/
theorem quoteChars_append_injective {s t u v : List Char}
    (h : quoteChars s ++ u = quoteChars t ++ v) : s = t ∧ u = v := by
  rw [quoteChars, quoteChars, List.cons_append, List.cons_append, List.append_assoc,
    List.append_assoc] at h
  -- the first characters are the marks, and so both texts are between the same ones
  obtain ⟨hmark, hbody⟩ := List.cons.inj h
  rw [← hmark] at hbody
  exact flatMap_escapeChar_append_injective (isMark_markFor s) hbody

/-- What stands behind the first of several quoted texts. -/
def quotedTail (items : List String) : List Char :=
  items.flatMap (fun item => ',' :: ' ' :: quoteChars item.toList) ++ [']']

theorem quotedTail_injective : Function.Injective quotedTail := by
  intro s t h
  induction s generalizing t with
  | nil =>
    cases t with
    | nil => rfl
    | cons y t => cases h
  | cons x s ih =>
    cases t with
    | nil => cases h
    | cons y t =>
      -- behind the comma stands a quoted text, and behind it the rest
      rw [quotedTail, quotedTail, List.flatMap_cons, List.flatMap_cons, List.append_assoc,
        List.append_assoc] at h
      obtain ⟨hitem, hrest⟩ :=
        quoteChars_append_injective (List.cons.inj (List.cons.inj h).2).2
      rw [String.toList_injective hitem, ih hrest]

end Text

theorem toList_quoteList_cons (item : String) (items : List String) :
    (quoteList (item :: items)).toList =
      '[' :: (Text.quoteChars item.toList ++ Text.quotedTail items) := by
  have hopen : "[".toList = ['['] := rfl
  have hclose : "]".toList = [']'] := rfl
  have hcomma : ", ".toList = [',', ' '] := rfl
  have htail : (", ".intercalate ((item :: items).map Text.quote)).toList =
      Text.quoteChars item.toList ++
        items.flatMap fun item => ',' :: ' ' :: Text.quoteChars item.toList := by
    induction items generalizing item with
    | nil => simp
    | cons next items ih =>
      rw [List.map_cons, List.map_cons, String.intercalate_cons_cons, String.toList_append,
        String.toList_append, ← List.map_cons, ih next, hcomma, Text.toList_quote,
        List.flatMap_cons, List.append_assoc]
      rfl
  rw [quoteList, String.toList_append, String.toList_append, htail, hopen, hclose, Text.quotedTail,
    List.append_assoc, List.append_assoc, List.singleton_append]

/-- **A list of quoted texts is read in one way.** -/
theorem quoteList_injective : Function.Injective quoteList := by
  have hne : ∀ (item : String) (items : List String), quoteList [] ≠ quoteList (item :: items) := by
    intro item items h
    have hchars := congrArg String.toList h
    rw [toList_quoteList_cons] at hchars
    -- the bracket that closes the empty list is no mark
    obtain ⟨-, hbehind⟩ := List.cons.inj hchars
    have hmark : ']' = Text.markFor item.toList := (List.cons.inj hbehind).1
    rcases Text.isMark_markFor item.toList with h | h <;> rw [h] at hmark <;> cases hmark
  intro s t h
  cases s with
  | nil =>
    cases t with
    | nil => rfl
    | cons y t => exact absurd h (hne y t)
  | cons x s =>
    cases t with
    | nil => exact absurd h.symm (hne x s)
    | cons y t =>
      have hchars := congrArg String.toList h
      rw [toList_quoteList_cons, toList_quoteList_cons] at hchars
      obtain ⟨hfirst, hrest⟩ := Text.quoteChars_append_injective (List.cons.inj hchars).2
      rw [String.toList_injective hfirst, Text.quotedTail_injective hrest]

end ShellPipeline
