/-!
# Blank characters

The characters that separate words and that trimming removes. The class is wider than the ASCII
blanks: it also holds the file, group, record and unit separators, the next-line control, and every
space of Unicode, the no-break ones included. It does not hold U+200B, U+180E or U+FEFF, which have
no width on paper but belong to the word they stand in.

* `isBlank` — membership in the class;
* `trim` — a text without the blanks at its two ends;
* `AllBlank` — every character of a list is blank.
-/

namespace ShellPipeline.Text

/-- **The blank characters.** The ASCII controls from tab to carriage return, the four information
separators, the space, and the non-ASCII spaces and line separators. -/
def isBlank (c : Char) : Bool :=
  let n := c.toNat
  (0x09 ≤ n && n ≤ 0x0D) || (0x1C ≤ n && n ≤ 0x20) || n == 0x85 || n == 0xA0 || n == 0x1680 ||
    (0x2000 ≤ n && n ≤ 0x200A) || n == 0x2028 || n == 0x2029 || n == 0x202F || n == 0x205F ||
    n == 0x3000

/-- A list of characters that holds nothing but blanks. -/
def AllBlank (s : List Char) : Prop := ∀ c ∈ s, isBlank c = true

instance (s : List Char) : Decidable (AllBlank s) :=
  decidable_of_iff (s.all isBlank = true) List.all_eq_true

/-- A list of characters without the blanks at its two ends. -/
def trimChars (s : List Char) : List Char :=
  ((s.dropWhile isBlank).reverse.dropWhile isBlank).reverse

/-- A text without the blanks at its two ends; those inside it stay. -/
def trim (s : String) : String := String.ofList (trimChars s.toList)

@[simp] theorem toList_trim (s : String) : (trim s).toList = trimChars s.toList :=
  String.toList_ofList

end ShellPipeline.Text
