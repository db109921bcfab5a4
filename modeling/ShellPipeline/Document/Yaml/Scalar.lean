import ShellPipeline.Document.Yaml.Cursor

/-!
# Scalars of a YAML document

The texts of a document: plain ones, quoted ones, and blocks of lines. What they have in common is
that they may go over several lines, and that line ends inside them are folded: a single one counts
as a space, and of several the first does not count. A block may keep its line ends instead.

* `readQuoted` — a text between quote marks, single or double;
* `readPlain` — a text without marks;
* `readBlock` — a block of lines.
-/

namespace ShellPipeline.Document.Yaml

/-- The rules of the format are broken. -/
def malformed {α : Type} : Except DocumentFault α := .error .malformed

/-- A line end and the empty lines behind it, folded. -/
def fold (lineBreak : Char) (more : List Char) : List Char :=
  if lineBreak ≠ '\n' then lineBreak :: more
  else if more.isEmpty then [' ']
  else more

/-! ### Quoted texts -/

/-- The character that a letter stands for behind a backslash. -/
def namedEscape? : Char → Option Char
  | '0' => some '\x00'
  | 'a' => some '\x07'
  | 'b' => some '\x08'
  | 't' => some '\t'
  | '\t' => some '\t'
  | 'n' => some '\n'
  | 'v' => some '\x0b'
  | 'f' => some '\x0c'
  | 'r' => some '\r'
  | 'e' => some '\x1b'
  | ' ' => some ' '
  | '"' => some '"'
  | '\\' => some '\\'
  | '/' => some '/'
  | 'N' => some '\x85'
  | '_' => some '\xa0'
  | 'L' => some '\u2028'
  | 'P' => some '\u2029'
  | _ => none

/-- The number of hexadecimal digits behind a letter behind a backslash. -/
def escapeWidth? : Char → Option Nat
  | 'x' => some 2
  | 'u' => some 4
  | 'U' => some 8
  | _ => none

/-- Whether a character is a hexadecimal digit. -/
def isHex (c : Char) : Bool := c.isDigit || ('a' ≤ c && c ≤ 'f') || ('A' ≤ c && c ≤ 'F')

/-- The value of a hexadecimal digit. -/
def hexValue (c : Char) : Nat :=
  if c.isDigit then c.toNat - 0x30
  else if c.toNat < 0x61 then c.toNat - 0x41 + 10
  else c.toNat - 0x61 + 10

/-- The number that digits spell in a base. -/
def numberOf (base : Nat) (digits : List Char) : Nat :=
  digits.foldl (fun n c => base * n + hexValue c) 0

/-- The point of a number, which may be half of a surrogate pair. Two halves do not make a
character. -/
def pointOf (n : Nat) : Except DocumentFault Point :=
  match Point.ofNumber? n with
  | some point => .ok point
  | none => .error (.value (.notCharacter n))

/-- The empty lines from here on, behind a line end, with the blanks in front of the first line that
is not empty. A mark between documents may not stand here. The first argument bounds their number.
-/
def quotedBreaks : Nat → Cursor → Scan (List Char)
  | 0, _ => malformed
  | bound + 1, cursor =>
    if atSeparator cursor.rest then malformed
    else
      let cursor := cursor.dropWhile isSpace
      match cursor.lineBreak? with
      | none => .ok ([], cursor)
      | some (c, cursor) =>
        (quotedBreaks bound cursor).map fun (more, cursor) => (c :: more, cursor)

/-- What a backslash and the text behind it stand for; the cursor is behind the backslash. -/
def readEscape (cursor : Cursor) : Scan Wording :=
  match cursor.rest with
  | [] => malformed
  | c :: rest =>
    match namedEscape? c, escapeWidth? c with
    | some d, _ => .ok ([.char d], cursor.next)
    | none, some width =>
      let digits := rest.take width
      if digits.length = width ∧ digits.all isHex then
        (pointOf (numberOf 16 digits)).map fun point => ([point], cursor.skip (width + 1))
      else malformed
    | none, none =>
      match cursor.lineBreak? with
      | some (_, behind) =>
        (quotedBreaks (behind.rest.length + 1) behind).map fun (text, cursor) =>
          (.ofChars text, cursor)
      | none => malformed

/-- The blanks from here on; where they end a line, the line end folded with what follows. -/
def quotedSpaces (cursor : Cursor) : Scan (List Char) :=
  let (spaces, cursor) := cursor.takeWhile isSpace
  match cursor.lineBreak? with
  | none => .ok (spaces, cursor)
  | some (c, behind) =>
    (quotedBreaks (behind.rest.length + 1) behind).map fun (more, cursor) => (fold c more, cursor)

/-- The text up to the closing mark; `done` is what has been read, last to first. The first argument
bounds the number of steps. -/
def quotedText (double : Bool) : Nat → Wording → Cursor → Scan Wording
  | 0, _, _ => malformed
  | bound + 1, done, cursor =>
    match cursor.rest with
    | [] => malformed
    | c :: rest =>
      if isSpace c || isBreak c then
        match quotedSpaces cursor with
        | .error fault => .error fault
        | .ok (text, cursor) =>
          quotedText double bound (Wording.ofChars text.reverse ++ done) cursor
      else if double && c == '\\' then
        match readEscape cursor.next with
        | .error fault => .error fault
        | .ok (text, cursor) => quotedText double bound (text.reverse ++ done) cursor
      else if !double && c == '\'' && rest.head? == some '\'' then
        quotedText double bound (.char '\'' :: done) (cursor.skip 2)
      else if c == (if double then '"' else '\'') then .ok (done.reverse, cursor.next)
      else quotedText double bound (.char c :: done) cursor.next

/-- **A text between quote marks**, from the opening mark on. -/
def readQuoted (double : Bool) (cursor : Cursor) : Scan Wording :=
  quotedText double (cursor.rest.length + 1) [] cursor.next

/-! ### Plain texts -/

/-- The number of characters up to the next blank, line end or mark that a plain text does not
hold. -/
def plainLength (inFlow : Bool) : List Char → Nat
  | [] => 0
  | c :: rest =>
    let ends := isSpace c || isBreak c ||
      (c == ':' && (endsWord rest || (inFlow && rest.head?.any ",[]{}".toList.contains))) ||
      (inFlow && ",?[]{}".toList.contains c)
    if ends then 0 else plainLength inFlow rest + 1

/-- The empty lines behind a line end, with the spaces in front of the next text. There is none
where a mark between documents comes first. The first argument bounds the number of steps. -/
def plainBreaks : Nat → Cursor → Option (List Char) × Cursor
  | 0, cursor => (none, cursor)
  | bound + 1, cursor =>
    let cursor := cursor.dropWhile (· == ' ')
    match cursor.lineBreak? with
    | none => (some [], cursor)
    | some (c, cursor) =>
      if atSeparator cursor.rest then (none, cursor)
      else
        match plainBreaks bound cursor with
        | (some more, cursor) => (some (c :: more), cursor)
        | (none, cursor) => (none, cursor)

/-- What lies between two parts of a plain text. -/
structure PlainGap where
  /-- What it counts as; nothing where the text cannot go on. -/
  text : List Char
  /-- Whether there is a line end in it. -/
  broken : Bool
  /-- The place behind it. -/
  cursor : Cursor

/-- The gap from here on. -/
def readGap (cursor : Cursor) : PlainGap :=
  let (spaces, cursor) := cursor.takeWhile (· == ' ')
  match cursor.lineBreak? with
  | none => ⟨spaces, false, cursor⟩
  | some (c, cursor) =>
    if atSeparator cursor.rest then ⟨[], true, cursor⟩
    else
      match plainBreaks (cursor.rest.length + 1) cursor with
      | (some more, cursor) => ⟨fold c more, true, cursor⟩
      | (none, cursor) => ⟨[], true, cursor⟩

/-- A plain text, with whether it ends behind a line end. -/
structure Plain where
  /-- The text. -/
  text : String
  /-- Whether the place behind it is on a new line. -/
  broken : Bool
  /-- The place behind it. -/
  cursor : Cursor

/-- The parts of a plain text from here on. `gap` is what lies in front of the next part; `done` is
what has been read, last to first; the first argument bounds the number of parts. -/
def plainText (inFlow : Bool) (indent : Int) : Nat → List Char → PlainGap → Plain
  | 0, done, gap => ⟨String.ofList done.reverse, gap.broken, gap.cursor⟩
  | bound + 1, done, gap =>
    let cursor := gap.cursor
    let length := plainLength inFlow cursor.rest
    if length = 0 then ⟨String.ofList done.reverse, gap.broken, cursor⟩
    else
      let done := (cursor.rest.take length).reverse ++ (gap.text.reverse ++ done)
      let gap := readGap (cursor.skip length)
      if gap.text.isEmpty || gap.cursor.rest.head? == some '#' ||
          (!inFlow && gap.cursor.column < indent) then
        ⟨String.ofList done.reverse, gap.broken, gap.cursor⟩
      else plainText inFlow indent bound done gap

/-- **A text without marks.** Outside flow collections its lines have to be indented by at least
`indent`. -/
def readPlain (inFlow : Bool) (indent : Int) (cursor : Cursor) : Plain :=
  plainText inFlow indent (cursor.rest.length + 1) [] ⟨[], false, cursor⟩

/-! ### Blocks -/

/-- What becomes of the line ends at the end of a block. -/
inductive Chomping where
  /-- All of them are dropped. -/
  | strip
  /-- One of them is kept. -/
  | clip
  /-- All of them are kept. -/
  | keep
deriving DecidableEq

/-- The chomping that a mark stands for. -/
def chomping? : Char → Option Chomping
  | '+' => some .keep
  | '-' => some .strip
  | _ => none

/-- The marks behind the opening mark of a block: its chomping and its indentation, in any order. -/
def readBlockMarks (cursor : Cursor) : Scan (Chomping × Option Nat) :=
  let chomp := fun (cursor : Cursor) =>
    match cursor.rest.head?.bind chomping? with
    | some found => (some found, cursor.next)
    | none => (none, cursor)
  let indent := fun (cursor : Cursor) =>
    match cursor.rest.head? with
    | some c => if c.isDigit then (some (c.toNat - 0x30), cursor.next) else (none, cursor)
    | none => (none, cursor)
  let (first, cursor) := chomp cursor
  let (width, cursor) := indent cursor
  let (second, cursor) := if first.isNone && width.isSome then chomp cursor else (none, cursor)
  if width = some 0 ∨ !endsItem cursor.rest then malformed
  else .ok (((first.or second).getD .clip, width), cursor)

/-- The empty lines in front of a block whose indentation is not given, and the largest column that
their spaces reach. The first argument bounds the number of steps. -/
def blockIndentation : Nat → Nat → Cursor → List Char × Nat × Cursor
  | 0, widest, cursor => ([], widest, cursor)
  | bound + 1, widest, cursor =>
    let cursor := cursor.dropWhile (· == ' ')
    let widest := max widest cursor.column
    match cursor.lineBreak? with
    | none => ([], widest, cursor)
    | some (c, cursor) =>
      let (more, widest, cursor) := blockIndentation bound widest cursor
      (c :: more, widest, cursor)

/-- The place behind the spaces up to a column. -/
def dropIndent (indent : Nat) (cursor : Cursor) : Cursor :=
  cursor.skip (min (indent - cursor.column) (cursor.rest.takeWhile (· == ' ')).length)

/-- The empty lines from here on, and the place behind the indentation of the next line. The first
argument bounds their number. -/
def blockBreaks (indent : Nat) : Nat → Cursor → List Char × Cursor
  | 0, cursor => ([], cursor)
  | bound + 1, cursor =>
    let cursor := dropIndent indent cursor
    match cursor.lineBreak? with
    | none => ([], cursor)
    | some (c, cursor) =>
      let (more, cursor) := blockBreaks indent bound cursor
      (c :: more, cursor)

/-- Whether a line of a block begins with a blank; such a line is never folded. -/
def startsBlank (cursor : Cursor) : Bool := cursor.rest.head?.any isSpace

/-- The lines of a block from here on. `breaks` are the empty lines in front of the next one; `done`
is what has been read, last to first; the first argument bounds the number of lines. -/
def blockLines (folded : Bool) (chomping : Chomping) (indent : Nat) :
    Nat → List Char → List Char → Cursor → String × Cursor
  | 0, done, _, cursor => (String.ofList done.reverse, cursor)
  | bound + 1, done, breaks, cursor =>
    if cursor.column ≠ indent ∨ cursor.rest.isEmpty then
      let tail := if chomping = .keep then breaks else []
      (String.ofList (tail.reverse ++ done).reverse, cursor)
    else
      let blank := startsBlank cursor
      let (line, behind) := cursor.takeWhile (!isBreak ·)
      let done := line.reverse ++ (breaks.reverse ++ done)
      let (ending, behind) := match behind.lineBreak? with
        | some (c, behind) => ([c], behind)
        | none => ([], behind)
      let (breaks, behind) := blockBreaks indent (behind.rest.length + 1) behind
      if behind.column = indent ∧ !behind.rest.isEmpty then
        let joint :=
          if folded && ending == ['\n'] && !blank && !startsBlank behind then
            if breaks.isEmpty then [' '] else []
          else ending
        blockLines folded chomping indent bound (joint.reverse ++ done) breaks behind
      else
        let tail := (if chomping = .strip then [] else ending) ++
          if chomping = .keep then breaks else []
        (String.ofList (tail.reverse ++ done).reverse, behind)

/-- **A block of lines**, from its opening mark on. `indent` is the column of the collection around
it. -/
def readBlock (folded : Bool) (indent : Int) (cursor : Cursor) :
    Except DocumentFault (String × Cursor) := do
  let ((chomping, width), cursor) ← readBlockMarks cursor.next
  match cursor.restOfLine? with
  | none => malformed
  | some cursor =>
    let least := max (indent + 1) 1
    match width with
    | some width =>
      let indent := (least + width - 1).toNat
      let (breaks, cursor) := blockBreaks indent (cursor.rest.length + 1) cursor
      return blockLines folded chomping indent (cursor.rest.length + 1) [] breaks cursor
    | none =>
      let (breaks, widest, cursor) := blockIndentation (cursor.rest.length + 1) 0 cursor
      let indent := max least.toNat widest
      return blockLines folded chomping indent (cursor.rest.length + 1) [] breaks cursor

end ShellPipeline.Document.Yaml
