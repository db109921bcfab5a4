import ShellPipeline.Document.Toml.Scalar
import ShellPipeline.Document.Toml.Table
import ShellPipeline.Limits

/-!
# Statements of a TOML document

A document is a sequence of statements, one on a line: a header opens a table or adds one to an
array of tables, and an entry puts a value under a key. Blank lines and comments lie between them.

* `readKey` — a dotted key;
* `readValue` — a value, arrays and inline tables included;
* `readStatements` — the statements of a document, and the fault that ends them, if there is one.
-/

namespace ShellPipeline.Document.Toml

/-! ### Keys -/

/-- Whether a character may stand in a key without quotes. -/
def isBareKey (c : Char) : Bool := c.isAlphanum || c == '-' || c == '_'

/-- One part of a dotted key. -/
def readKeyPart (s : List Char) : Except DocumentFault (String × List Char) :=
  match s with
  | [] => malformed
  | c :: rest =>
    if isBareKey c then .ok (String.ofList (s.takeWhile isBareKey), s.dropWhile isBareKey)
    else if c = '"' then readBasic false (rest.length + 1) [] rest
    else if c = '\'' then readLiteral [] rest
    else malformed

/-- A dotted key, with at most `bound` points in it. The blanks behind each part are skipped. -/
def readKeyParts : Nat → List Char → Except DocumentFault (Key × List Char)
  | 0, _ => malformed
  | bound + 1, s => do
    let (part, rest) ← readKeyPart s
    match rest.dropWhile isSpace with
    | '.' :: rest =>
      let (more, rest) ← readKeyParts bound (rest.dropWhile isSpace)
      return (part :: more, rest)
    | rest => return ([part], rest)

/-- **A dotted key** and the blanks behind it. -/
def readKey (s : List Char) : Except DocumentFault (Key × List Char) :=
  readKeyParts (s.length + 1) s

/-! ### Values -/

/-- What follows a comment, if one starts here: the end of its line. -/
def skipComment : List Char → Except DocumentFault (List Char)
  | '#' :: rest =>
    if (rest.takeWhile (· != '\n')).any isControl then malformed
    else .ok (rest.dropWhile (· != '\n'))
  | s => .ok s

/-- What follows blanks, line ends and comments. The first argument bounds the number of comments.
-/
def skipFiller : Nat → List Char → Except DocumentFault (List Char)
  | 0, s => .ok s
  | bound + 1, s =>
    match s.dropWhile isSpaceOrNewline with
    | '#' :: rest => do skipFiller bound (← skipComment ('#' :: rest))
    | rest => .ok rest

/-- What is left of the room for collections inside a collection that takes some units of it. -/
def roomInside (room units : Nat) : Except DocumentFault Nat :=
  if room < units then .error (.value .tooDeep) else .ok (room - units)

mutual

/-- A value, with the room that is left for collections. The first argument bounds how deep
collections nest and how long they are. -/
def readValue : Nat → Nat → List Char → Except DocumentFault (Value × List Char)
  | 0, _, _ => malformed
  | bound + 1, room, '[' :: rest => do
    let room ← roomInside room 2
    let rest ← skipFiller (rest.length + 1) rest
    match rest with
    | ']' :: rest => return (.list [], rest)
    | rest => readItems bound room [] rest
  | bound + 1, room, '{' :: rest => do
    let room ← roomInside room 3
    match rest.dropWhile isSpace with
    | '}' :: rest => return (.map [], rest)
    | rest => readPairs bound room ⟨[], .empty⟩ rest
  | _ + 1, _, s => readScalar s

/-- The values of an array that has some, up to its closing bracket; `done` are those read so far,
last to first. -/
def readItems : Nat → Nat → List Value → List Char → Except DocumentFault (Value × List Char)
  | 0, _, _, _ => malformed
  | bound + 1, room, done, s => do
    let (item, rest) ← readValue bound room s
    match ← skipFiller (rest.length + 1) rest with
    | ']' :: rest => return (.list (item :: done).reverse, rest)
    | ',' :: rest =>
      match ← skipFiller (rest.length + 1) rest with
      | ']' :: rest => return (.list (item :: done).reverse, rest)
      | rest => readItems bound room (item :: done) rest
    | _ => malformed

/-- The entries of an inline table that has some, up to its closing brace. -/
def readPairs : Nat → Nat → InlineTable → List Char → Except DocumentFault (Value × List Char)
  | 0, _, _, _ => malformed
  | bound + 1, room, table, s => do
    let (key, rest) ← readKey s
    match rest with
    | '=' :: rest =>
      let (value, rest) ← readValue bound room (rest.dropWhile isSpace)
      match table.add key value with
      | none => malformed
      | some table =>
        match rest.dropWhile isSpace with
        | '}' :: rest => return (.map table.entries, rest)
        | ',' :: rest => readPairs bound room table (rest.dropWhile isSpace)
        | _ => malformed
    | _ => malformed

end

/-! ### Statements -/

/-- One statement. -/
inductive Statement where
  /-- Opens a table. -/
  | table (key : Key)
  /-- Adds a table to an array of tables. -/
  | arrayTable (key : Key)
  /-- Puts a value under a key of the open table. -/
  | entry (key : Key) (value : Value)

/-- A statement, from its first character on. -/
def readStatement [Limits] (s : List Char) : Except DocumentFault (Statement × List Char) :=
  match s with
  | '[' :: '[' :: rest => do
    let (key, rest) ← readKey (rest.dropWhile isSpace)
    match rest with
    | ']' :: ']' :: rest => return (.arrayTable key, rest)
    | _ => malformed
  | '[' :: rest => do
    let (key, rest) ← readKey (rest.dropWhile isSpace)
    match rest with
    | ']' :: rest => return (.table key, rest)
    | _ => malformed
  | _ => do
    let (key, rest) ← readKey s
    match rest with
    | '=' :: rest =>
      let (value, rest) ←
        readValue (rest.length + 1) Limits.inlineRoom (rest.dropWhile isSpace)
      return (.entry key value, rest)
    | _ => malformed

/-- The end of a line: blanks, perhaps a comment, and a newline or the end of the text. -/
def readLineEnd (s : List Char) : Except DocumentFault (List Char) := do
  match ← skipComment (s.dropWhile isSpace) with
  | [] => return []
  | '\n' :: rest => return rest
  | _ => malformed

/-- **The statements of a document**, in order, and the fault that ends them, if there is one. The
first argument bounds the number of lines. -/
def readStatements [Limits] : Nat → List Char → List Statement × Option DocumentFault
  | 0, _ => ([], none)
  | bound + 1, s =>
    match s.dropWhile isSpace with
    | [] => ([], none)
    | '\n' :: rest => readStatements bound rest
    | '#' :: rest =>
      match readLineEnd ('#' :: rest) with
      | .error fault => ([], some fault)
      | .ok rest => readStatements bound rest
    | s =>
      match readStatement s with
      | .error fault => ([], some fault)
      | .ok (statement, rest) =>
        match readLineEnd rest with
        | .error fault => ([statement], some fault)
        | .ok rest =>
          let (statements, fault) := readStatements bound rest
          (statement :: statements, fault)

end ShellPipeline.Document.Toml
