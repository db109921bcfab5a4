import ShellPipeline.Document.Yaml.Token

/-!
# Tags of a YAML document

A tag says what kind of value a piece of a document stands for. It may be written out. A plain text
without a tag gets the kind that its spelling suggests: `yes` and `off` are truth values, `0x1F`,
`1_000` and `190:20:30` whole numbers, `1.5` and `.inf` floating-point numbers, `~` and the empty
text no value, `2001-12-14` a date. Every other text stands for itself.

* `Tag` — the kinds;
* `Tag.ofName` — the kind of a tag that is written out;
* `Tag.ofPlain` — the kind that a spelling suggests;
* `readMoment?` — the parts of a date or a moment.
-/

namespace ShellPipeline.Document.Yaml

/-- **The kinds of value.** -/
inductive Tag where
  /-- No value. -/
  | null
  /-- A truth value. -/
  | bool
  /-- A whole number. -/
  | int
  /-- A floating-point number. -/
  | float
  /-- Bytes, in a notation of 64 characters. -/
  | binary
  /-- A date or a moment. -/
  | timestamp
  /-- A text. -/
  | str
  /-- A list. -/
  | seq
  /-- A mapping. -/
  | map
  /-- The keys of a mapping. -/
  | set
  /-- Pairs in order, each under a key of its own. -/
  | omap
  /-- Pairs in order. -/
  | pairs
  /-- The mark of a mapping whose entries are taken over. -/
  | merge
  /-- The mark of the value that stands for a whole mapping. -/
  | value
  /-- Any other kind. -/
  | other
deriving DecidableEq, Repr

namespace Tag

/-- What the names of the known kinds begin with. -/
def family : String := "tag:yaml.org,2002:"

/-- The known kinds, without those beginnings. -/
def known : List (String × Tag) :=
  [("null", null), ("bool", bool), ("int", int), ("float", float), ("binary", binary),
    ("timestamp", timestamp), ("str", str), ("seq", seq), ("map", map), ("set", set),
    ("omap", omap), ("pairs", pairs), ("merge", merge), ("value", value)]

/-- **The kind of a name** that is written out. -/
def ofName (name : String) : Tag :=
  match known.find? fun entry => family ++ entry.1 == name with
  | some (_, tag) => tag
  | none => other

end Tag

/-! ### Spellings -/

/-- Whether a character is a digit or an underscore. -/
def isDigitOrLine (c : Char) : Bool := c.isDigit || c == '_'

/-- A text without its sign. -/
def dropSign : List Char → List Char
  | '+' :: rest | '-' :: rest => rest
  | s => s

/-- Whether a text is one of the words for truth values. -/
def isTruthWord (s : List Char) : Bool :=
  ["yes", "Yes", "YES", "no", "No", "NO", "true", "True", "TRUE", "false", "False", "FALSE", "on",
    "On", "ON", "off", "Off", "OFF"].contains (String.ofList s)

/-- Whether a text is one of the words for no value. -/
def isNullWord (s : List Char) : Bool :=
  ["~", "null", "Null", "NULL", ""].contains (String.ofList s)

/-- Whether a text is not empty and all its characters pass a test. -/
def allAndSome (test : Char → Bool) (s : List Char) : Bool := !s.isEmpty && s.all test

/-- Whether a text is a number below sixty, in one or two digits. -/
def isSixtieth : List Char → Bool
  | [c] => c.isDigit
  | [c, d] => '0' ≤ c && c ≤ '5' && d.isDigit
  | _ => false

/-- Whether a text spells a whole number. -/
def isIntSpelling (s : List Char) : Bool :=
  match dropSign s with
  | ['0'] => true
  | '0' :: 'b' :: rest => allAndSome (fun c => c == '0' || c == '1' || c == '_') rest
  | '0' :: 'x' :: rest => allAndSome (fun c => isHex c || c == '_') rest
  | '0' :: rest => allAndSome (fun c => ('0' ≤ c && c ≤ '7') || c == '_') rest
  | c :: rest =>
    c.isDigit &&
      match rest.splitOn ':' with
      | head :: parts => head.all isDigitOrLine && parts.all isSixtieth
      | [] => false
  | [] => false

/-- Whether a text is a power of ten with its sign, or nothing. -/
def isSignedExponent : List Char → Bool
  | [] => true
  | e :: sign :: digits =>
    (e == 'e' || e == 'E') && (sign == '+' || sign == '-') && allAndSome Char.isDigit digits
  | _ => false

/-- Whether a text is the rest of a floating-point number behind its point. -/
def isFraction (s : List Char) : Bool := isSignedExponent (s.dropWhile isDigitOrLine)

/-- Whether a text spells a floating-point number. -/
def isFloatSpelling (s : List Char) : Bool :=
  let unsigned := dropSign s
  [".inf", ".Inf", ".INF"].contains (String.ofList unsigned) ||
    [".nan", ".NaN", ".NAN"].contains (String.ofList s) ||
    match unsigned with
    | '.' :: c :: rest => unsigned.length = s.length && c.isDigit && isFraction rest
    | c :: rest =>
      c.isDigit &&
        match rest.splitOn ':' with
        | [whole] =>
          match whole.dropWhile isDigitOrLine with
          | '.' :: fraction => isFraction fraction
          | _ => false
        | head :: parts =>
          match parts.getLast? with
          | none => false
          | some last =>
            let sixtieth := last.takeWhile (· != '.')
            head.all isDigitOrLine && parts.dropLast.all isSixtieth && isSixtieth sixtieth &&
              match last.drop sixtieth.length with
              | '.' :: fraction => fraction.all isDigitOrLine
              | _ => false
        | [] => false
    | [] => false

/-! ### Dates -/

/-- The parts of a date or a moment, as they are written. -/
structure MomentParts where
  /-- The year. -/
  year : Nat
  /-- The month. -/
  month : Nat
  /-- The day. -/
  day : Nat
  /-- Whether month and day have two digits each. -/
  padded : Bool
  /-- The hour, the minute, the second and the millionths. -/
  time : Option (Nat × Nat × Nat × Nat)
  /-- The distance from universal time, in minutes. -/
  offset : Option Int

/-- One or two digits, and the text behind them. -/
def oneOrTwo? (s : List Char) : Option (List Char × List Char) :=
  match (s.take 2).takeWhile Char.isDigit with
  | [] => none
  | digits => some (digits, s.drop digits.length)

/-- Exactly some digits, and the text behind them. -/
def exactly? (width : Nat) (s : List Char) : Option (List Char × List Char) :=
  let digits := s.take width
  if digits.length = width ∧ digits.all Char.isDigit then some (digits, s.drop width) else none

/-- One given character. -/
def mark? (c : Char) : List Char → Option (List Char)
  | d :: rest => if d = c then some rest else none
  | [] => none

/-- The distance from universal time at the end of a moment. -/
def momentOffset? (s : List Char) : Option (Option Int) :=
  if s.isEmpty then some none
  else
    match s.dropWhile isSpace with
    | ['Z'] => some (some 0)
    | sign :: rest =>
      if sign = '+' ∨ sign = '-' then do
        let (hours, rest) ← oneOrTwo? rest
        let minutes ←
          if rest.isEmpty then some 0
          else do
            let rest ← mark? ':' rest
            let (minutes, rest) ← exactly? 2 rest
            if rest.isEmpty then some (numberOf 10 minutes) else none
        let total : Int := numberOf 10 hours * 60 + minutes
        return some (if sign = '-' then -total else total)
      else none
    | [] => none

/-- **The parts of a date or a moment.** -/
def readMoment? (s : List Char) : Option MomentParts := do
  let (year, s) ← exactly? 4 s
  let s ← mark? '-' s
  let (month, s) ← oneOrTwo? s
  let s ← mark? '-' s
  let (day, s) ← oneOrTwo? s
  let date : MomentParts :=
    { year := numberOf 10 year
      month := numberOf 10 month
      day := numberOf 10 day
      padded := month.length = 2 && day.length = 2
      time := none
      offset := none }
  match s with
  | [] => return date
  | c :: rest =>
    let s ← if c = 'T' ∨ c = 't' then some rest
      else if isSpace c then some (s.dropWhile isSpace)
      else none
    let (hour, s) ← oneOrTwo? s
    let s ← mark? ':' s
    let (minute, s) ← exactly? 2 s
    let s ← mark? ':' s
    let (second, s) ← exactly? 2 s
    let (micro, s) := match s with
      | '.' :: rest =>
        let digits := rest.takeWhile Char.isDigit
        (numberOf 10 ((digits ++ List.replicate 6 '0').take 6), rest.drop digits.length)
      | s => (0, s)
    let offset ← momentOffset? s
    return { date with
      time := some (numberOf 10 hour, numberOf 10 minute, numberOf 10 second, micro)
      offset := offset }

/-- Whether a text spells a date or a moment. A date alone has to be written out in full. -/
def isMomentSpelling (s : List Char) : Bool :=
  match readMoment? s with
  | some parts => parts.time.isSome || parts.padded
  | none => false

/-- A text without the newline at its end, if there is one; of several newlines one is taken off. -/
def dropNewline (s : List Char) : List Char :=
  if s.getLast? = some '\n' then s.dropLast else s

/-- **The kind that a spelling suggests.** A newline at the end does not count, unless nothing
stands before it. The characters that begin tags, anchors and aliases spell a kind without values
when they stand alone. -/
def Tag.ofPlain (text : String) : Tag :=
  if text = "\n" then .str
  else
    let s := dropNewline text.toList
    if isTruthWord s then .bool
    else if isFloatSpelling s then .float
    else if isIntSpelling s then .int
    else if s = ['<', '<'] then .merge
    else if isNullWord s then .null
    else if isMomentSpelling s then .timestamp
    else if s = ['='] then .value
    else if s = ['!'] ∨ s = ['&'] ∨ s = ['*'] then .other
    else .str

/-- The kind that the spelling of a text suggests; a torn text spells nothing. -/
def Tag.ofWording (w : Wording) : Tag := if w.IsWhole then .ofPlain w.string else .str

example : ["1_000", "010", "190:20:30", "08"].map Tag.ofPlain = [.int, .int, .int, .str] := by
  decide +kernel

example : ["1e3", "1.5e+3", "-.INF", "1."].map Tag.ofPlain = [.str, .float, .float, .float] := by
  decide +kernel

example : ["12\n", "12\n\n", "\n", ""].map Tag.ofPlain = [.int, .str, .str, .null] := by
  decide +kernel

end ShellPipeline.Document.Yaml
