import ShellPipeline.Document.Yaml.Scalar

/-!
# Tokens of a YAML document

The pieces that a document is cut into before its structure is looked at. Some stand for characters
of the text. Others stand for its layout: where a collection that is set off by indentation begins
and ends, and where something is the key of a mapping.

* `Token` — the pieces;
* `readDirective`, `readName`, `readTag` — the pieces with a text of their own, scalars aside.
-/

namespace ShellPipeline.Document.Yaml

/-- The name of a tag as it is written: a handle, which stands for the beginning of the name, and
the rest of it. Without a handle the rest is the whole name. -/
structure TagName where
  /-- The handle. -/
  handle : Option String
  /-- The rest. -/
  suffix : String
deriving DecidableEq, Repr

/-- **A piece of a document.** -/
inductive Token where
  /-- A line for the version of the format. -/
  | version (major minor : Nat)
  /-- A line that sets a tag handle. -/
  | tagHandle (handle meaning : String)
  /-- A line of another kind. -/
  | otherDirective
  /-- The mark at the beginning of a document. -/
  | documentStart
  /-- The mark at the end of a document. -/
  | documentEnd
  /-- A sequence set off by indentation begins. -/
  | blockSequenceStart
  /-- A mapping set off by indentation begins. -/
  | blockMappingStart
  /-- A collection set off by indentation ends. -/
  | blockEnd
  /-- An opening bracket. -/
  | flowSequenceStart
  /-- A closing bracket. -/
  | flowSequenceEnd
  /-- An opening brace. -/
  | flowMappingStart
  /-- A closing brace. -/
  | flowMappingEnd
  /-- A dash in front of an item. -/
  | blockEntry
  /-- A comma between items. -/
  | flowEntry
  /-- A key follows. -/
  | key
  /-- A value follows. -/
  | value
  /-- Something named before comes again. -/
  | alias (name : String)
  /-- The name of what follows. -/
  | anchor (name : String)
  /-- The tag of what follows. -/
  | tag (name : TagName)
  /-- A text; `plain` if it is not quoted. -/
  | scalar (text : Wording) (plain : Bool)
  /-- The place from which on the text cannot be cut. -/
  | broken (fault : DocumentFault)
deriving DecidableEq, Repr

/-- Whether a character may stand in the name of a directive, an anchor or a handle. -/
def isNameChar (c : Char) : Bool := c.isAlphanum || c == '-' || c == '_'

/-! ### Tags -/

/-- Whether a character may stand in the rest of a tag. -/
def isTagChar (c : Char) : Bool :=
  c.isAlphanum || "-;/?:@&=+$,_.!~*'()[]".toList.contains c

/-- The bytes given by percent signs and pairs of hexadecimal digits from here on, and the text
behind them. The first argument bounds their number. -/
def escapedBytes : Nat → List Char → Except DocumentFault (List UInt8 × List Char)
  | 0, s => .ok ([], s)
  | bound + 1, '%' :: rest =>
    match rest with
    | a :: b :: rest =>
      if isHex a && isHex b then
        (escapedBytes bound rest).map fun (bytes, after) =>
          (UInt8.ofNat (numberOf 16 [a, b]) :: bytes, after)
      else malformed
    | _ => malformed
  | _ + 1, s => .ok ([], s)

/-- The rest of a tag, last character first. `done` is what has been read; the first argument bounds
the number of steps. -/
def tagChars : Nat → List Char → Cursor → Scan (List Char)
  | 0, _, _ => malformed
  | bound + 1, done, cursor =>
    match cursor.rest with
    | [] => .ok (done, cursor)
    | c :: _ =>
      if c = '%' then
        match escapedBytes cursor.rest.length cursor.rest with
        | .error fault => .error fault
        | .ok (bytes, after) =>
          match String.fromUTF8? ⟨bytes.toArray⟩ with
          | none => malformed
          | some text =>
            tagChars bound (text.toList.reverse ++ done)
              (cursor.skip (cursor.rest.length - after.length))
      else if isTagChar c then tagChars bound (c :: done) cursor.next
      else .ok (done, cursor)

/-- The rest of a tag; it is not empty. -/
def readTagSuffix (cursor : Cursor) : Scan String :=
  match tagChars (cursor.rest.length + 1) [] cursor with
  | .error fault => .error fault
  | .ok (done, behind) =>
    if cursor.rest.length = behind.rest.length then malformed
    else .ok (String.ofList done.reverse, behind)

/-- A handle: an exclamation mark, or a name between two of them. -/
def readHandle (cursor : Cursor) : Scan String :=
  match cursor.rest with
  | '!' :: rest =>
    if rest.head? = some ' ' then .ok ("!", cursor.next)
    else
      let name := rest.takeWhile isNameChar
      if (rest.drop name.length).head? = some '!' then
        .ok (String.ofList ('!' :: (name ++ ['!'])), cursor.skip (name.length + 2))
      else malformed
  | _ => malformed

/-- **A tag**, from its exclamation mark on. A space or the end of the line has to follow. -/
def readTag (cursor : Cursor) : Scan Token :=
  let close := fun (found : TagName) (cursor : Cursor) =>
    if endsItem cursor.rest then (.ok (.tag found, cursor) : Scan Token) else malformed
  match cursor.rest.drop 1 with
  | '<' :: _ =>
    match readTagSuffix (cursor.skip 2) with
    | .error fault => .error fault
    | .ok (suffix, cursor) =>
      if cursor.rest.head? = some '>' then close ⟨none, suffix⟩ cursor.next else malformed
  | rest =>
    if endsWord rest then close ⟨none, "!"⟩ cursor.next
    else if (rest.takeWhile fun c => c != ' ' && !isBreak c).contains '!' then
      match readHandle cursor with
      | .error fault => .error fault
      | .ok (handle, cursor) =>
        match readTagSuffix cursor with
        | .error fault => .error fault
        | .ok (suffix, cursor) => close ⟨some handle, suffix⟩ cursor
    else
      match readTagSuffix cursor.next with
      | .error fault => .error fault
      | .ok (suffix, cursor) => close ⟨some "!", suffix⟩ cursor

/-! ### Names -/

/-- The name of an anchor or an alias, from the mark in front of it on. -/
def readName (cursor : Cursor) : Scan String :=
  let (name, behind) := cursor.next.takeWhile isNameChar
  let closed := match behind.rest with
    | [] => true
    | c :: _ => isSpace c || isBreak c || "?:,]\x7d%@\x60".toList.contains c
  if name.isEmpty || !closed then malformed else .ok (String.ofList name, behind)

/-! ### Directives -/

/-- One number of a version. -/
def readVersionNumber (cursor : Cursor) : Scan Nat :=
  let (digits, cursor) := cursor.takeWhile Char.isDigit
  if digits.isEmpty then malformed
  else if digitLimit < digits.length then .error (.value (.tooManyDigits digits.length))
  else .ok (numberOf 10 digits, cursor)

/-- The version of the format: two numbers with a point between them. -/
def readVersion (cursor : Cursor) : Except DocumentFault (Token × Cursor) := do
  let (major, cursor) ← readVersionNumber (cursor.dropWhile (· == ' '))
  if cursor.rest.head? = some '.' then
    let (minor, cursor) ← readVersionNumber cursor.next
    if endsItem cursor.rest then return (.version major minor, cursor) else malformed
  else malformed

/-- A handle and what it stands for. -/
def readTagHandle (cursor : Cursor) : Scan Token :=
  match readHandle (cursor.dropWhile (· == ' ')) with
  | .error fault => .error fault
  | .ok (handle, cursor) =>
    if cursor.rest.head? = some ' ' then
      match readTagSuffix (cursor.dropWhile (· == ' ')) with
      | .error fault => .error fault
      | .ok (meaning, cursor) =>
        if endsItem cursor.rest then .ok (.tagHandle handle meaning, cursor) else malformed
    else malformed

/-- **A directive**, from its percent sign on, with the end of its line. -/
def readDirective (cursor : Cursor) : Scan Token :=
  let (name, cursor) := cursor.next.takeWhile isNameChar
  if name.isEmpty || !endsItem cursor.rest then malformed
  else
    let found : Scan Token :=
      if name = "YAML".toList then readVersion cursor
      else if name = "TAG".toList then readTagHandle cursor
      else .ok (.otherDirective, cursor.dropWhile (!isBreak ·))
    match found with
    | .error fault => .error fault
    | .ok (token, cursor) =>
      match cursor.restOfLine? with
      | none => malformed
      | some cursor => .ok (token, cursor)

end ShellPipeline.Document.Yaml
