import ShellPipeline.Text.Blank

/-!
# The words of a text

A word is a maximal run of characters that are not blank. `words` lists the words of a text in
order. There is no quoting and no escape: a quote or a backslash is a character of its word like
any other.

The list is built from the right, one character at a time. What has been read so far is held as the
word that is still open at its left end, possibly empty, and the finished words after it.
-/

namespace ShellPipeline.Text

/-- What the right part of a text holds: the word that may still grow to the left, and the finished
words behind it. -/
structure OpenWords where
  /-- The word at the left end; empty where a blank stands there. -/
  head : List Char
  /-- The finished words, in order. -/
  tail : List (List Char)
deriving DecidableEq, Repr

namespace OpenWords

/-- Nothing read yet. -/
def empty : OpenWords := ⟨[], []⟩

/-- All words, once nothing is left to read. -/
def close (w : OpenWords) : List (List Char) :=
  if w.head.isEmpty then w.tail else w.head :: w.tail

/-- Reads one more character to the left: a blank closes the open word, any other character joins
it. -/
def push (c : Char) (w : OpenWords) : OpenWords :=
  if isBlank c then ⟨[], w.close⟩ else ⟨c :: w.head, w.tail⟩

@[simp] theorem close_empty : empty.close = [] := rfl

@[simp] theorem push_of_blank {c : Char} (h : isBlank c = true) (w : OpenWords) :
    w.push c = ⟨[], w.close⟩ := by
  simp [push, h]

@[simp] theorem push_of_not_blank {c : Char} (h : isBlank c = false) (w : OpenWords) :
    w.push c = ⟨c :: w.head, w.tail⟩ := by
  simp [push, h]

end OpenWords

/-- The words of a list of characters. -/
def wordChars (s : List Char) : List (List Char) :=
  (s.foldr OpenWords.push OpenWords.empty).close

/-- **The words of a text**, in order. -/
def words (s : String) : List String := (wordChars s.toList).map String.ofList

@[simp] theorem wordChars_nil : wordChars [] = [] := rfl

@[simp] theorem words_empty : words "" = [] := rfl

end ShellPipeline.Text
