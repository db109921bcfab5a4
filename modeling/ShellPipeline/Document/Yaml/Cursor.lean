import ShellPipeline.Document.Fault

/-!
# Positions in a YAML document

A cursor stands at a place in the text of a document and knows its line and its column, both counted
from zero. The text uses single newlines; the next-line control and the two Unicode separators end
lines as well. A byte order mark takes no column.

* `Cursor.next`, `Cursor.skip`, `Cursor.takeWhile` — moving on;
* `isBreak`, `endsWord`, `endsLine` — what ends lines and words;
* `Cursor.lineBreak?`, `atSeparator` — line ends, and the marks between documents.
-/

namespace ShellPipeline.Document.Yaml

/-- The characters that end a line. -/
def isBreak (c : Char) : Bool := c == '\n' || c == '\x85' || c == '\u2028' || c == '\u2029'

/-- The blanks inside a line. -/
def isSpace (c : Char) : Bool := c == ' ' || c == '\t'

/-- Whether a text is at its end, or at the end of a line. -/
def endsLine : List Char → Bool
  | [] => true
  | c :: _ => isBreak c

/-- Whether a text is at its end, at the end of a line, or at a space. -/
def endsItem : List Char → Bool
  | [] => true
  | c :: _ => c == ' ' || isBreak c

/-- Whether a text is at its end, at the end of a line, or at a blank. -/
def endsWord : List Char → Bool
  | [] => true
  | c :: _ => isSpace c || isBreak c

/-- Whether a text begins with a mark between documents. -/
def atSeparator (s : List Char) : Bool :=
  ("---".toList.isPrefixOf s || "...".toList.isPrefixOf s) && endsWord (s.drop 3)

/-- A place in the text of a document. -/
structure Cursor where
  /-- The text from here on. -/
  rest : List Char
  /-- The number of characters before. -/
  index : Nat
  /-- The line. -/
  line : Nat
  /-- The column. -/
  column : Nat
deriving Inhabited

namespace Cursor

/-- The beginning of a text. -/
def start (text : List Char) : Cursor := ⟨text, 0, 0, 0⟩

/-- One character further. -/
def next (cursor : Cursor) : Cursor :=
  match cursor.rest with
  | [] => cursor
  | c :: rest =>
    if isBreak c then ⟨rest, cursor.index + 1, cursor.line + 1, 0⟩
    else
      ⟨rest, cursor.index + 1, cursor.line,
        if c = '\uFEFF' then cursor.column else cursor.column + 1⟩

/-- Some characters further. -/
def skip : Nat → Cursor → Cursor
  | 0, cursor => cursor
  | n + 1, cursor => skip n cursor.next

/-- The characters from here on that pass a test, and the place behind them. -/
def takeWhile (test : Char → Bool) (cursor : Cursor) : List Char × Cursor :=
  let taken := cursor.rest.takeWhile test
  (taken, cursor.skip taken.length)

/-- The place behind the characters that pass a test. -/
def dropWhile (test : Char → Bool) (cursor : Cursor) : Cursor := (cursor.takeWhile test).2

/-- The end of a line, where one is: the character it counts as, and the place behind it. -/
def lineBreak? (cursor : Cursor) : Option (Char × Cursor) :=
  match cursor.rest with
  | c :: _ =>
    if c = '\n' ∨ c = '\x85' then some ('\n', cursor.next)
    else if isBreak c then some (c, cursor.next)
    else none
  | [] => none

/-- The place behind spaces and a comment, which has to be the end of the line. -/
def restOfLine? (cursor : Cursor) : Option Cursor :=
  let cursor := cursor.dropWhile (· == ' ')
  let cursor := if cursor.rest.head? = some '#' then cursor.dropWhile (!isBreak ·) else cursor
  if endsLine cursor.rest then
    match cursor.lineBreak? with
    | some (_, behind) => some behind
    | none => some cursor
  else none

end Cursor

/-- What reading a piece of a document gives: the piece, and the place behind it. -/
abbrev Scan (α : Type) := Except DocumentFault (α × Cursor)

end ShellPipeline.Document.Yaml
