import ShellPipeline.Text.LowerCase
import ShellPipeline.Text.Quoted

/-!
# The wording of a text

A document can ask for a character by its number, and the number may be that of half of a surrogate
pair. Such a half is no character. A text can hold it all the same: the text can be compared with
others and be shown between quote marks, but it cannot be written. A text is *whole* if there is no
half in it, and then it is a string; otherwise it is torn.

Half of the halves, the low ones from `0xDC80` to `0xDCFF`, stand for single bytes in the names of
files; a name with any other half in it cannot be looked up.

* `Point` — what a text is made of;
* `Wording`, `Wording.IsWhole`, `Wording.Torn` — texts, the ones that are strings, and the others;
* `Wording.lowerCase`, `Wording.quote` — a text in lower case, and between quote marks.
-/

namespace ShellPipeline.Document

/-- **A character, or half of a surrogate pair.** -/
inductive Point where
  /-- A character. -/
  | char (c : Char)
  /-- Half of a surrogate pair, by its place among them. -/
  | half (offset : Fin 0x800)
deriving DecidableEq, Repr, Inhabited

namespace Point

/-- The number of a point. -/
def number : Point → Nat
  | char c => c.toNat
  | half offset => 0xD800 + offset

/-- **The point of a number**, if there is one. -/
def ofNumber? (n : Nat) : Option Point :=
  if h : n.isValidChar then some (.char (Char.ofNatAux n h))
  else if h : n - 0xD800 < 0x800 then some (.half ⟨n - 0xD800, h⟩)
  else none

/-- A point as a character. A half is shown by the replacement character, which is no digit, no
letter, no blank and no sign either. -/
def shown : Point → Char
  | char c => c
  | half _ => '\uFFFD'

/-- Whether a point is a character. -/
def isChar : Point → Bool
  | char _ => true
  | half _ => false

/-- Whether a point stands for something in the name of a file: a character does, and a half that
stands for a byte. -/
def isEncodable : Point → Bool
  | char _ => true
  | half offset => 0x480 ≤ offset.val && offset.val < 0x500

/-- **Whether a point can stand in the name of a file.** The null character cannot. -/
def isNameable (p : Point) : Bool := p.isEncodable && p != .char '\x00'

/-- A point as it stands between two quote marks. -/
def escape (mark : Char) : Point → List Char
  | char c => Text.escapeChar mark c
  | half offset => Text.escapeByNumber (0xD800 + offset)

end Point

/-- **A text of a document.** -/
abbrev Wording := List Point

namespace Wording

/-- A list of characters as a text of a document. -/
def ofChars (s : List Char) : Wording := s.map .char

/-- A string as a text of a document. -/
def ofString (s : String) : Wording := ofChars s.toList

/-- The characters of a text, as far as it has them. -/
def shown (w : Wording) : List Char := w.map Point.shown

/-- **Whether a text is a string**: there is no half of a surrogate pair in it. -/
def IsWhole (w : Wording) : Prop := ∀ p ∈ w, p.isChar = true

instance (w : Wording) : Decidable w.IsWhole := inferInstanceAs (Decidable (∀ p ∈ w, _))

/-- **A torn text**: one that is no string. -/
abbrev Torn := { w : Wording // ¬ w.IsWhole }

/-- The string that a text is; of a torn one, what can be shown. -/
def string (w : Wording) : String := String.ofList w.shown

@[simp] theorem shown_ofChars (s : List Char) : shown (ofChars s) = s := by
  simp [shown, ofChars, Function.comp_def, Point.shown]

@[simp] theorem string_ofString (s : String) : string (ofString s) = s := by
  simp [string, ofString, String.ofList_toList]

theorem isWhole_ofChars (s : List Char) : IsWhole (ofChars s) := by
  simp [IsWhole, ofChars, Point.isChar]

/-- **A whole text is its string.** -/
theorem ofString_string {w : Wording} (h : w.IsWhole) : ofString w.string = w := by
  rw [ofString, string, String.toList_ofList, ofChars, shown, List.map_map]
  refine (List.map_congr_left fun p hp => ?_).trans w.map_id
  -- only a half is not shown as itself
  cases p with
  | char c => rfl
  | half offset => exact absurd (h _ hp) Bool.false_ne_true

/-- The halves at the beginning of a text. -/
def halves : Wording → List (Fin 0x800)
  | .half offset :: rest => offset :: halves rest
  | _ => []

/-- A text in lower case, from behind some characters on, which are given last to first. A half has
no case, and words end at it. -/
def lowerFrom : List Char → Wording → Wording
  | done, [] => ofChars (Text.lowerCase done.reverse)
  | done, .char c :: rest => lowerFrom (c :: done) rest
  | done, .half offset :: rest =>
    ofChars (Text.lowerCase done.reverse) ++ .half offset :: lowerFrom [] rest

/-- **A text in lower case.** -/
def lowerCase (w : Wording) : Wording := lowerFrom [] w

/-- The characters of a text between quote marks. A half is written by its number. -/
def quoteChars (w : Wording) : List Char :=
  let mark := Text.markFor w.shown
  mark :: (w.flatMap (Point.escape mark) ++ [mark])

/-- **A text between quote marks.** -/
def quote (w : Wording) : String := String.ofList w.quoteChars

example : quote (ofString "it" ++ [.half 0]) = "'it\\ud800'" := by decide +kernel

end Wording

end ShellPipeline.Document
