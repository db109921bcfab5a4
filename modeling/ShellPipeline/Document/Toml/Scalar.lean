import ShellPipeline.Document.Fault
import ShellPipeline.Document.Value

/-!
# Scalars of a TOML document

The values of a TOML document that hold no others: strings of four kinds, numbers, truth values,
dates and times. Each reader takes the text from where the value starts and returns the value with
the rest of the text.

Line ends are single newlines here.
-/

namespace ShellPipeline.Document.Toml

/-- What reading a piece of a document gives: the piece and the rest of the text. -/
abbrev Reading (α : Type) := Except DocumentFault (α × List Char)

/-- The rules of the format are broken. -/
def malformed {α : Type} : Except DocumentFault α := .error .malformed

/-- Whether a character may not stand in a string or a comment. The tab may. -/
def isControl (c : Char) : Bool := (c.toNat < 0x20 && c != '\t') || c.toNat == 0x7F

/-- The blanks inside a line. -/
def isSpace (c : Char) : Bool := c == ' ' || c == '\t'

/-- The blanks, line ends included. -/
def isSpaceOrNewline (c : Char) : Bool := isSpace c || c == '\n'

/-- The value of a hexadecimal digit. -/
def hexValue (c : Char) : Nat :=
  if c.isDigit then c.toNat - 0x30
  else if c.toNat < 0x61 then c.toNat - 0x41 + 10
  else c.toNat - 0x61 + 10

/-- Whether a character is a hexadecimal digit. -/
def isHex (c : Char) : Bool :=
  c.isDigit || ('a' ≤ c && c ≤ 'f') || ('A' ≤ c && c ≤ 'F')

/-- The number that digits spell in a base. -/
def numberOf (base : Nat) (digits : List Char) : Nat :=
  digits.foldl (fun n c => base * n + hexValue c) 0

/-! ### Strings -/

/-- The character that a number stands for, where it is a Unicode scalar value. -/
def scalar? (n : Nat) : Option Char :=
  if h : n.isValidChar then some (Char.ofNatAux n h) else none

/-- A character given by exactly `width` hexadecimal digits. -/
def readHexChar (width : Nat) (s : List Char) : Reading Char :=
  let digits := s.take width
  if digits.length = width ∧ digits.all isHex then
    match scalar? (numberOf 16 digits) with
    | some c => .ok (c, s.drop width)
    | none => malformed
  else malformed

/-- The character that a letter stands for behind a backslash. -/
def namedEscape? : Char → Option Char
  | 'b' => some '\x08'
  | 't' => some '\t'
  | 'n' => some '\n'
  | 'f' => some '\x0c'
  | 'r' => some '\r'
  | '"' => some '"'
  | '\\' => some '\\'
  | _ => none

/-- What a backslash and the text behind it stand for. In a string of several lines a backslash at
the end of a line stands for nothing, and takes the blanks and line ends behind it with it. -/
def readEscape (multiline : Bool) : List Char → Reading (List Char)
  | [] => malformed
  | 'u' :: rest => (readHexChar 4 rest).map fun (c, rest) => ([c], rest)
  | 'U' :: rest => (readHexChar 8 rest).map fun (c, rest) => ([c], rest)
  | c :: rest =>
    if multiline && isSpaceOrNewline c then
      match (c :: rest).dropWhile isSpace with
      | [] => .ok ([], [])
      | '\n' :: rest => .ok ([], rest.dropWhile isSpaceOrNewline)
      | _ => malformed
    else
      match namedEscape? c with
      | some d => .ok ([d], rest)
      | none => malformed

/-- The text of a basic string up to its closing marks. The first argument bounds the number of
characters; the second holds those read so far, last to first. -/
def readBasic (multiline : Bool) : Nat → List Char → List Char → Reading String
  | 0, _, _ => malformed
  | _ + 1, _, [] => malformed
  | bound + 1, done, c :: rest =>
    if c = '"' then
      if !multiline then .ok (String.ofList done.reverse, rest)
      else
        match rest with
        | '"' :: '"' :: rest => .ok (String.ofList done.reverse, rest)
        | _ => readBasic multiline bound (c :: done) rest
    else if c = '\\' then
      match readEscape multiline rest with
      | .error fault => .error fault
      | .ok (text, rest) => readBasic multiline bound (text.reverse ++ done) rest
    else if isControl c && !(multiline && c == '\n') then malformed
    else readBasic multiline bound (c :: done) rest

/-- The text of a literal string up to its closing mark. -/
def readLiteral (done : List Char) : List Char → Reading String
  | [] => malformed
  | c :: rest =>
    if c = '\'' then .ok (String.ofList done.reverse, rest)
    else if isControl c then malformed
    else readLiteral (c :: done) rest

/-- The text of a literal string of several lines up to its closing marks. -/
def readLongLiteral (done : List Char) : List Char → Reading String
  | [] => malformed
  | c :: rest =>
    if "'''".toList.isPrefixOf (c :: rest) then .ok (String.ofList done.reverse, rest.drop 2)
    else if isControl c && c != '\n' then malformed
    else readLongLiteral (c :: done) rest

/-- A string of several lines may end with one or two marks of its own before the closing ones. -/
def moreMarks (mark : Char) (text : String) (s : List Char) : String × List Char :=
  let marks := (s.take 2).takeWhile (· == mark)
  (text ++ String.ofList marks, s.drop marks.length)

/-- A line end right behind the opening marks of a string of several lines does not count. -/
def dropFirstNewline : List Char → List Char
  | '\n' :: rest => rest
  | s => s

/-- A string, where one starts. -/
def readString? (s : List Char) : Option (Reading String) :=
  match s with
  | '"' :: '"' :: '"' :: rest =>
    let rest := dropFirstNewline rest
    some ((readBasic true (rest.length + 1) [] rest).map fun (text, rest) =>
      moreMarks '"' text rest)
  | '\'' :: '\'' :: '\'' :: rest =>
    some ((readLongLiteral [] (dropFirstNewline rest)).map fun (text, rest) =>
      moreMarks '\'' text rest)
  | '"' :: rest => some (readBasic false (rest.length + 1) [] rest)
  | '\'' :: rest => some (readLiteral [] rest)
  | _ => none

/-! ### Numbers -/

/-- A run of digits, in which one underscore may stand between two of them. The underscores are left
out. -/
def digitRun (isDigit : Char → Bool) : List Char → List Char × List Char
  | [] => ([], [])
  | [c] => if isDigit c then ([c], []) else ([], [c])
  | c :: d :: rest =>
    if isDigit c then
      if d = '_' then
        match rest with
        | e :: _ =>
          if isDigit e then
            let (digits, after) := digitRun isDigit rest
            (c :: digits, after)
          else ([c], d :: rest)
        | [] => ([c], d :: rest)
      else
        let (digits, after) := digitRun isDigit (d :: rest)
        (c :: digits, after)
    else ([], c :: d :: rest)

/-- A whole number in base two, eight or sixteen, behind its mark. -/
def readBased? (s : List Char) : Option (Value × List Char) :=
  let run := fun (base : Nat) (isDigit : Char → Bool) (rest : List Char) =>
    match digitRun isDigit rest with
    | ([], _) => none
    | (digits, rest) => some (Value.int (numberOf base digits), rest)
  match s with
  | '0' :: 'x' :: rest => run 16 isHex rest
  | '0' :: 'b' :: rest => run 2 (fun c => c == '0' || c == '1') rest
  | '0' :: 'o' :: rest => run 8 (fun c => '0' ≤ c && c ≤ '7') rest
  | _ => none

/-- A sign, if one is there; `true` for a minus. -/
def readSign : List Char → Bool × List Char
  | '-' :: rest => (true, rest)
  | '+' :: rest => (false, rest)
  | s => (false, s)

/-- The digits behind a point, where there are some. -/
def readFraction : List Char → List Char × List Char
  | '.' :: rest =>
    match digitRun Char.isDigit rest with
    | ([], _) => ([], '.' :: rest)
    | found => found
  | s => ([], s)

/-- The power of ten behind an `e`, where there is one. -/
def readExponent (s : List Char) : Option Int × List Char :=
  match s with
  | c :: rest =>
    if c = 'e' ∨ c = 'E' then
      let (negative, rest) := readSign rest
      match digitRun Char.isDigit rest with
      | ([], _) => (none, s)
      | (digits, rest) =>
        let n : Int := numberOf 10 digits
        (some (if negative then -n else n), rest)
    else (none, s)
  | [] => (none, [])

/-- The digits in front of the point of a decimal number: a single zero, or digits of which the
first is no zero. -/
def readWhole : List Char → List Char × List Char
  | '0' :: rest => (['0'], rest)
  | s => digitRun Char.isDigit s

/-- A decimal number, where one starts. It is whole if neither a fraction nor a power of ten is
there. -/
def readDecimal? (s : List Char) : Option (Reading Value) :=
  let (negative, unsigned) := readSign s
  match readWhole unsigned with
  | ([], _) => none
  | (whole, rest) =>
    let (fraction, rest) := readFraction rest
    let (exponent, rest) := readExponent rest
    if fraction.isEmpty ∧ exponent.isNone then
      if digitLimit < whole.length then some (.error (.value (.tooManyDigits whole.length)))
      else
        let n : Int := numberOf 10 whole
        some (.ok (.int (if negative then -n else n), rest))
    else
      let digits := numberOf 10 (whole ++ fraction)
      let power := exponent.getD 0 - fraction.length
      some (.ok (.float (.ofDecimal negative digits power), rest))

/-- Infinity, or the value that is no number, where one of them starts. -/
def readSpecial? (s : List Char) : Option (Value × List Char) :=
  let (negative, unsigned) := readSign s
  match unsigned with
  | 'i' :: 'n' :: 'f' :: rest => some (.float (.infinity negative), rest)
  | 'n' :: 'a' :: 'n' :: rest => some (.float .nan, rest)
  | _ => none

/-! ### Dates and times -/

/-- Exactly `width` digits. -/
def readFixed? (width : Nat) (s : List Char) : Option (Nat × List Char) :=
  let digits := s.take width
  if digits.length = width ∧ digits.all Char.isDigit then some (numberOf 10 digits, s.drop width)
  else none

/-- One given character. -/
def readMark? (mark : Char) : List Char → Option (List Char)
  | c :: rest => if c = mark then some rest else none
  | [] => none

/-- The first six digits behind a point, as millionths; further ones are dropped. -/
def readMicros (s : List Char) : Nat × List Char :=
  match s with
  | '.' :: rest =>
    match rest.takeWhile Char.isDigit with
    | [] => (0, s)
    | digits =>
      let six := (digits ++ List.replicate 5 '0').take 6
      (numberOf 10 six, rest.dropWhile Char.isDigit)
  | _ => (0, s)

/-- A time of day with its seconds. -/
def readClock? (s : List Char) : Option (ClockTime × List Char) := do
  let (hour, s) ← readFixed? 2 s
  let s ← readMark? ':' s
  let (minute, s) ← readFixed? 2 s
  let s ← readMark? ':' s
  let (second, s) ← readFixed? 2 s
  let (micro, s) := readMicros s
  match ClockTime.check hour minute second micro with
  | .ok time => some (time, s)
  | .error _ => none

/-- The distance from universal time behind a time of day, where one is given. -/
def readOffset (s : List Char) : Option Int × List Char :=
  match s with
  | 'Z' :: rest | 'z' :: rest => (some 0, rest)
  | sign :: rest =>
    if sign = '+' ∨ sign = '-' then
      let found := do
        let (hours, rest) ← readFixed? 2 rest
        let rest ← readMark? ':' rest
        let (minutes, rest) ← readFixed? 2 rest
        if hours < 24 ∧ minutes < 60 then some (hours * 60 + minutes, rest) else none
      match found with
      | some (minutes, rest) =>
        (some (if sign = '-' then -(minutes : Int) else (minutes : Int)), rest)
      | none => (none, s)
    else (none, s)
  | [] => (none, [])

/-- A date, or a date with a time, where one starts. -/
def readDate? (s : List Char) : Option (Reading Value) := do
  let (year, rest) ← readFixed? 4 s
  let rest ← readMark? '-' rest
  let (month, rest) ← readFixed? 2 rest
  let rest ← readMark? '-' rest
  let (day, rest) ← readFixed? 2 rest
  match CivilDate.check year month day with
  | .error _ => some malformed
  | .ok date =>
    let withTime := match rest with
      | c :: behind => if c = 'T' ∨ c = 't' ∨ c = ' ' then readClock? behind else none
      | [] => none
    match withTime with
    | none => some (.ok (.date date, rest))
    | some (time, rest) =>
      let (offset, rest) := readOffset rest
      some (.ok (.moment ⟨date, time, offset⟩, rest))

/-! ### All of them -/

/-- **A scalar**, from its first character on. -/
def readScalar (s : List Char) : Reading Value :=
  match readString? s with
  | some reading => reading.map fun (text, rest) => (.text text, rest)
  | none =>
    if "true".toList.isPrefixOf s then .ok (.bool true, s.drop 4)
    else if "false".toList.isPrefixOf s then .ok (.bool false, s.drop 5)
    else
      match readDate? s with
      | some reading => reading
      | none =>
        match readClock? s with
        | some (time, rest) => .ok (.time time, rest)
        | none =>
          match readBased? s with
          | some found => .ok found
          | none =>
            match readDecimal? s with
            | some reading => reading
            | none =>
              match readSpecial? s with
              | some found => .ok found
              | none => malformed

end ShellPipeline.Document.Toml
