import ShellPipeline.Document.Yaml.Token

/-!
# The token list of a YAML document

A document is cut into tokens from left to right. Tokens for the layout come from two things that
are remembered on the way.

*Indentation.* Outside brackets and braces, an item that stands further right than the collection
around it begins a new collection, and one further left ends the collections it has left.

*Keys.* Whether a text is a key shows only at the colon behind it. So each place where a key may
begin is remembered, one for each depth of brackets, until the colon comes or can no longer come: a
key has to be on one line and within 1024 characters. Where the layout leaves no other reading, its
colon is required.

*Faults.* A text that cannot be cut to its end still has tokens up to some place, and the structure
of a document may be broken before that place. So the fault stands behind the tokens that are
certain, in place of the others.

* `Cutting` — how far the cutting has come;
* `Cutting.step` — one more token;
* `tokensOf` — all tokens of a text.
-/

namespace ShellPipeline.Document.Yaml

/-- A place where a key may have begun. -/
structure KeyPlace where
  /-- The number of tokens before it. -/
  tokens : Nat
  /-- Whether the colon has to come. -/
  required : Bool
  /-- The number of characters before it. -/
  index : Nat
  /-- Its line. -/
  line : Nat
  /-- Its column. -/
  column : Nat

/-- How far the cutting of a document has come. -/
structure Cutting where
  /-- The place it has reached. -/
  cursor : Cursor
  /-- The tokens so far. -/
  tokens : Array Token
  /-- The depth of brackets and braces. -/
  depth : Nat
  /-- The column of the innermost collection set off by indentation; `-1` outside all of them. -/
  indent : Int
  /-- The columns of the collections around it. -/
  indents : List Int
  /-- Whether a key may begin here. -/
  keyAllowed : Bool
  /-- The places where a key may have begun, with their depths. -/
  keys : List (Nat × KeyPlace)

namespace Cutting

/-- The beginning of a text. -/
def start (text : List Char) : Cutting where
  cursor := .start text
  tokens := #[]
  depth := 0
  indent := -1
  indents := []
  keyAllowed := true
  keys := []

/-- Adds a token. -/
def emit (cutting : Cutting) (token : Token) : Cutting :=
  { cutting with tokens := cutting.tokens.push token }

/-- Moves on. -/
def skip (cutting : Cutting) (n : Nat) : Cutting :=
  { cutting with cursor := cutting.cursor.skip n }

/-- Sets whether a key may begin next. -/
def allowKey (cutting : Cutting) (allowed : Bool) : Cutting :=
  { cutting with keyAllowed := allowed }

/-- The place at this depth where a key may have begun. -/
def key? (cutting : Cutting) : Option KeyPlace := cutting.keys.lookup cutting.depth

/-- Forgets the place at this depth where a key may have begun. -/
def forgetKey (cutting : Cutting) : Cutting :=
  { cutting with keys := cutting.keys.filter (·.1 != cutting.depth) }

/-- Gives up the key at this depth; one that is required may not be given up. -/
def dropKey (cutting : Cutting) : Except DocumentFault Cutting :=
  if cutting.key?.any (·.required) then malformed else .ok cutting.forgetKey

/-- Whether this place has left a key behind. -/
def leftBehind (cutting : Cutting) (key : KeyPlace) : Bool :=
  key.line != cutting.cursor.line || key.index + 1024 < cutting.cursor.index

/-- Gives up the keys that this place has left behind. -/
def dropStaleKeys (cutting : Cutting) : Except DocumentFault Cutting :=
  if cutting.keys.any fun entry => cutting.leftBehind entry.2 && entry.2.required then malformed
  else .ok { cutting with keys := cutting.keys.filter fun entry => !cutting.leftBehind entry.2 }

/-- The number of tokens that are certain. From a place on where a key may have begun none is, since
a colon may still put tokens in front of it. -/
def certain (cutting : Cutting) : Nat :=
  cutting.keys.foldl (fun least entry =>
    if entry.2.required || !cutting.leftBehind entry.2 then min least entry.2.tokens else least)
    cutting.tokens.size

/-- Remembers this place as one where a key may begin. -/
def rememberKey (cutting : Cutting) : Except DocumentFault Cutting :=
  if !cutting.keyAllowed then .ok cutting
  else
    let place : KeyPlace :=
      { tokens := cutting.tokens.size
        required := cutting.depth = 0 && cutting.indent = cutting.cursor.column
        index := cutting.cursor.index
        line := cutting.cursor.line
        column := cutting.cursor.column }
    cutting.dropKey.map fun cutting =>
      { cutting with keys := (cutting.depth, place) :: cutting.keys }

/-- Ends the collections that a column has left, of which there are the given number at most. -/
def unwind (column : Int) : Nat → Cutting → Cutting
  | 0, cutting => cutting
  | bound + 1, cutting =>
    if column < cutting.indent then
      match cutting.indents with
      | outer :: rest =>
        unwind column bound
          { cutting.emit .blockEnd with indent := outer, indents := rest }
      | [] => cutting
    else cutting

/-- Ends the collections that a column has left. Inside brackets and braces columns do not count. -/
def unwindTo (cutting : Cutting) (column : Int) : Cutting :=
  if cutting.depth = 0 then unwind column cutting.indents.length cutting else cutting

/-- Begins a collection at a column, if the column is further right than the collections so far. -/
def indentTo? (cutting : Cutting) (column : Int) : Option Cutting :=
  if cutting.indent < column then
    some { cutting with indents := cutting.indent :: cutting.indents, indent := column }
  else none

/-- Skips spaces, comments and line ends, of which there are the given number at most. A line end
outside brackets and braces allows a key. -/
def skipFiller : Nat → Cutting → Cutting
  | 0, cutting => cutting
  | bound + 1, cutting =>
    let cursor := cutting.cursor.dropWhile (· == ' ')
    let cursor := if cursor.rest.head? = some '#' then cursor.dropWhile (!isBreak ·) else cursor
    match cursor.lineBreak? with
    | some (_, behind) =>
      skipFiller bound
        { cutting with cursor := behind, keyAllowed := cutting.keyAllowed || cutting.depth == 0 }
    | none => { cutting with cursor := cursor }

/-- Leaves everything that indentation has begun. -/
def leaveAll (cutting : Cutting) : Except DocumentFault Cutting :=
  (cutting.unwindTo (-1)).dropKey.map (·.allowKey false)

/-- A mark between documents. -/
def separator (cutting : Cutting) (token : Token) : Except DocumentFault Cutting :=
  cutting.leaveAll.map fun cutting => (cutting.skip 3).emit token

/-- An opening bracket or brace; it may begin a key, and a key may begin behind it. -/
def openFlow (cutting : Cutting) (token : Token) : Except DocumentFault Cutting :=
  cutting.rememberKey.map fun cutting =>
    (({ cutting with depth := cutting.depth + 1, keyAllowed := true }).skip 1).emit token

/-- A closing bracket or brace. -/
def closeFlow (cutting : Cutting) (token : Token) : Except DocumentFault Cutting :=
  if cutting.depth = 0 then malformed
  else
    cutting.dropKey.map fun cutting =>
      (({ cutting with depth := cutting.depth - 1, keyAllowed := false }).skip 1).emit token

/-- A comma between items. -/
def flowEntry (cutting : Cutting) : Except DocumentFault Cutting :=
  cutting.dropKey.map fun cutting => ((cutting.allowKey true).skip 1).emit .flowEntry

/-- A dash in front of an item. Outside brackets it may begin a sequence. -/
def blockEntry (cutting : Cutting) : Except DocumentFault Cutting :=
  let enter (cutting : Cutting) : Except DocumentFault Cutting :=
    (cutting.allowKey true).dropKey.map fun cutting => (cutting.skip 1).emit .blockEntry
  if cutting.depth ≠ 0 then enter cutting
  else if !cutting.keyAllowed then malformed
  else
    match cutting.indentTo? cutting.cursor.column with
    | some cutting => enter (cutting.emit .blockSequenceStart)
    | none => enter cutting

/-- A question mark in front of a key. Outside brackets it may begin a mapping. -/
def explicitKey (cutting : Cutting) : Except DocumentFault Cutting :=
  let enter (cutting : Cutting) : Except DocumentFault Cutting :=
    (cutting.allowKey (cutting.depth = 0)).dropKey.map fun cutting => (cutting.skip 1).emit .key
  if cutting.depth ≠ 0 then enter cutting
  else if !cutting.keyAllowed then malformed
  else
    match cutting.indentTo? cutting.cursor.column with
    | some cutting => enter (cutting.emit .blockMappingStart)
    | none => enter cutting

/-- Puts a token in front of what has come since a place. -/
def insertAt (cutting : Cutting) (place : KeyPlace) (token : Token) : Cutting :=
  { cutting with tokens := cutting.tokens.insertIdxIfInBounds place.tokens token }

/-- A colon behind a text that now turns out to be a key. The key may begin a mapping. -/
def valueOf (cutting : Cutting) (place : KeyPlace) : Cutting :=
  let cutting := cutting.forgetKey.insertAt place .key
  let cutting :=
    if cutting.depth = 0 then
      match cutting.indentTo? place.column with
      | some cutting => cutting.insertAt place .blockMappingStart
      | none => cutting
    else cutting
  ((cutting.allowKey false).skip 1).emit .value

/-- A colon that belongs to no text. -/
def valueAlone (cutting : Cutting) : Except DocumentFault Cutting :=
  let enter (cutting : Cutting) : Except DocumentFault Cutting :=
    (cutting.allowKey (cutting.depth = 0)).dropKey.map fun cutting => (cutting.skip 1).emit .value
  if cutting.depth ≠ 0 then enter cutting
  else if !cutting.keyAllowed then malformed
  else
    match cutting.indentTo? cutting.cursor.column with
    | some cutting => enter (cutting.emit .blockMappingStart)
    | none => enter cutting

/-- A colon in front of a value. -/
def value (cutting : Cutting) : Except DocumentFault Cutting :=
  match cutting.key? with
  | some place => .ok (cutting.valueOf place)
  | none => cutting.valueAlone

/-- A token that may begin a key, and behind which no key begins. -/
def item (cutting : Cutting) (scan : Scan Token) : Except DocumentFault Cutting := do
  let cutting ← cutting.rememberKey
  let (token, cursor) ← scan
  return { (cutting.allowKey false).emit token with cursor := cursor }

/-- A block of lines; a key may begin behind it. -/
def block (cutting : Cutting) (folded : Bool) : Except DocumentFault Cutting := do
  let cutting ← (cutting.allowKey true).dropKey
  let (text, cursor) ← readBlock folded cutting.indent cutting.cursor
  return { cutting.emit (.scalar (.ofString text) false) with cursor := cursor }

/-- A text without quote marks. A key may begin behind it if it ends behind a line end. -/
def plain (cutting : Cutting) : Except DocumentFault Cutting := do
  let cutting ← cutting.rememberKey
  let found := readPlain (cutting.depth != 0) (cutting.indent + 1) cutting.cursor
  return { (cutting.allowKey found.broken).emit (.scalar (.ofString found.text) true) with
    cursor := found.cursor }

/-- Whether a text without quote marks may begin here. -/
def startsPlain (cutting : Cutting) : Bool :=
  match cutting.cursor.rest with
  | [] => false
  | c :: rest =>
    !(isSpace c || isBreak c || "-?:,[]\x7b\x7d#&*!|>'\"%@\x60".toList.contains c) ||
      (!endsWord rest && (c == '-' || (cutting.depth == 0 && (c == '?' || c == ':'))))

/-- A directive. -/
def directive (cutting : Cutting) : Except DocumentFault Cutting := do
  let cutting ← cutting.leaveAll
  let (token, cursor) ← readDirective cutting.cursor
  return { cutting.emit token with cursor := cursor }

/-- **The next token**, and the layout tokens that go with it, from its first character on. -/
def step (cutting : Cutting) : Except DocumentFault Cutting :=
  let cursor := cutting.cursor
  let atMargin := cursor.column = 0
  let inFlow := cutting.depth ≠ 0
  match cursor.rest with
  | [] => .ok cutting
  | c :: rest =>
    if c = '%' ∧ atMargin then cutting.directive
    else if atMargin ∧ c = '-' ∧ atSeparator (c :: rest) then cutting.separator .documentStart
    else if atMargin ∧ c = '.' ∧ atSeparator (c :: rest) then cutting.separator .documentEnd
    else if c = '[' then cutting.openFlow .flowSequenceStart
    else if c = '\x7b' then cutting.openFlow .flowMappingStart
    else if c = ']' then cutting.closeFlow .flowSequenceEnd
    else if c = '\x7d' then cutting.closeFlow .flowMappingEnd
    else if c = ',' then cutting.flowEntry
    else if c = '-' ∧ endsWord rest then cutting.blockEntry
    else if c = '?' ∧ (inFlow ∨ endsWord rest) then cutting.explicitKey
    else if c = ':' ∧ (inFlow ∨ endsWord rest) then cutting.value
    else if c = '*' then
      cutting.item ((readName cursor).map fun (name, cursor) => (.alias name, cursor))
    else if c = '&' then
      cutting.item ((readName cursor).map fun (name, cursor) => (.anchor name, cursor))
    else if c = '!' then cutting.item (readTag cursor)
    else if c = '|' ∧ ¬inFlow then cutting.block false
    else if c = '>' ∧ ¬inFlow then cutting.block true
    else if c = '\'' ∨ c = '"' then
      cutting.item ((readQuoted (c == '"') cursor).map fun (text, cursor) =>
        (.scalar text false, cursor))
    else if cutting.startsPlain then cutting.plain
    else malformed

/-- The next token behind any filler; `true` if there is none, and the tokens at the end of the text
have been added. `bound` is more than the number of characters that are left. -/
def advance (bound : Nat) (cutting : Cutting) : Except DocumentFault (Cutting × Bool) := do
  let cutting ← (cutting.skipFiller bound).dropStaleKeys
  let cutting := cutting.unwindTo cutting.cursor.column
  if cutting.cursor.rest.isEmpty then return (← cutting.leaveAll, true)
  else return (← cutting.step, false)

/-- All tokens. Where the text cannot be cut further, the fault follows the `certain` ones. The
first argument bounds the number of steps; it is more than the number of characters that are left,
of which each step takes one at least. -/
def run : Nat → Nat → Cutting → List Token
  | 0, certain, cutting => cutting.tokens.toList.take certain ++ [.broken .malformed]
  | bound + 1, certain, cutting =>
    match cutting.advance (bound + 1) with
    | .error fault => cutting.tokens.toList.take certain ++ [.broken fault]
    | .ok (cutting, true) => cutting.tokens.toList
    | .ok (cutting, false) => run bound cutting.certain cutting

end Cutting

/-! ### Texts -/

/-- Whether a character may stand in a document. -/
def isAllowed (c : Char) : Bool :=
  let n := c.toNat
  n == 0x09 || n == 0x0A || n == 0x0D || (0x20 ≤ n && n ≤ 0x7E) || n == 0x85 ||
    (0xA0 ≤ n && n ≤ 0xD7FF) || (0xE000 ≤ n && n ≤ 0xFFFD) || 0x10000 ≤ n

/-- The number of characters of a piece. The first piece is twice as long. -/
def pieceLength : Nat := 4096

/-- The pieces of a text in front of the first one with a character that may not stand in a
document. The first argument is more than their number, the second the length of the next. -/
def cleanPart : Nat → Nat → List Char → List Char
  | 0, _, _ => []
  | bound + 1, length, text =>
    let piece := text.take length
    if piece.isEmpty || !piece.all isAllowed then []
    else piece ++ cleanPart bound pieceLength (text.drop length)

/-- The tokens of a text without forbidden characters. A byte order mark at its beginning is
skipped. -/
def cut (text : List Char) : List Token :=
  let start := Cutting.start text
  let start := if text.head? = some '\uFEFF' then start.skip 1 else start
  start.run (text.length + 1) 0

/-- **The tokens of a text.** Each piece of the text is looked at as a whole when the cutting comes
to it, and a piece with a forbidden character is not cut. -/
def tokensOf (text : List Char) : List Token :=
  let clean := cleanPart (text.length + 1) (2 * pieceLength) text
  if clean.length = text.length then cut text else cut clean ++ [.broken .malformed]

end ShellPipeline.Document.Yaml
