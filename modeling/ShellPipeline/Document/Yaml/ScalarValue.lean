import ShellPipeline.Document.Value
import ShellPipeline.Document.Yaml.Tag
import ShellPipeline.Text.DecimalDigit

/-!
# Values of YAML scalars

What a text of a given kind stands for. A plain text is of the kind that its spelling suggests, so
it always stands for a value, or nearly always; a tag that is written out may ask for anything, and
then the text need not fit. Numbers may be written with the digits and between the blanks of any
script. A torn text is looked at as it is shown, since half of a surrogate pair is as wrong in a
number as the character that shows it; but a fault names the text as it is.

* `readTruth`, `readInt`, `readFloat`, `readBytes`, `readTimestamp` — one reader for each kind;
* `scalarValue` — all of them.
-/

namespace ShellPipeline.Document.Yaml

open Number (Binary64)

/-- A value that cannot be made. -/
def refuse {α : Type} (fault : ValueFault) : Except DocumentFault α := .error (.value fault)

/-- A truth value. -/
def readTruth (w : Wording) : Except DocumentFault Value :=
  let word := w.lowerCase
  if ["yes", "true", "on"].contains word.string then .ok (.bool true)
  else if ["no", "false", "off"].contains word.string then .ok (.bool false)
  else refuse (.notTruth word)

/-! ### Numbers -/

/-- Whether a character is one of the ASCII blanks, the separators of information not among them. -/
def isAsciiBlank (c : Char) : Bool := c == ' ' || ('\t' ≤ c && c ≤ '\r')

/-- A text in ASCII digits without blanks at its ends and without its sign; `true` for a minus. -/
def trimSign (s : List Char) : Bool × List Char :=
  let inner := (Text.asciiDigits s).dropWhile isAsciiBlank
  match (inner.reverse.dropWhile isAsciiBlank).reverse with
  | '-' :: rest => (true, rest)
  | '+' :: rest => (false, rest)
  | rest => (false, rest)

/-- The value of a digit in bases up to sixteen; sixteen for what is no digit. -/
def digitValue (c : Char) : Nat := if isHex c then hexValue c else 16

/-- A text without the mark of a base. -/
def dropBaseMark (base : Nat) (s : List Char) : List Char :=
  match s with
  | '0' :: mark :: rest =>
    let marks := if base = 2 then ['b', 'B'] else if base = 8 then ['o', 'O']
      else if base = 16 then ['x', 'X'] else []
    if marks.contains mark then rest else s
  | _ => s

/-- A whole number in a base, with a sign and the mark of the base if they are there. Too many
digits are refused before what stands behind them is looked at. -/
def readIntIn (base : Nat) (w : Wording) : Except DocumentFault Int :=
  let (negative, unsigned) := trimSign w.shown
  let text := dropBaseMark base unsigned
  let digits := text.takeWhile fun c => digitValue c < base
  if base = 10 ∧ digitLimit < digits.length then refuse (.tooManyDigits digits.length)
  else if digits.isEmpty ∨ digits.length < text.length then
    refuse (.notInteger w base)
  else
    let n : Int := numberOf base digits
    .ok (if negative then -n else n)

/-- A number written as parts of sixty, first to last. -/
def sixties (parts : List Int) : Int := parts.foldl (fun total part => 60 * total + part) 0

/-- A text without underscores. -/
def dropLines (w : Wording) : Wording := w.filter (· != .char '_')

/-- A text with its sign taken off; `true` for a minus. -/
def splitSign (w : Wording) : Except DocumentFault (Bool × Wording) :=
  match w with
  | [] => refuse .emptyNumber
  | .char '-' :: rest => .ok (true, rest)
  | .char '+' :: rest => .ok (false, rest)
  | rest => .ok (false, rest)

/-- The parts of a text between its colons. -/
def splitColons (w : Wording) : List Wording := w.splitOn (.char ':')

/-- The size of a whole number, without its sign. -/
def readMagnitude (w : Wording) : Except DocumentFault Int :=
  match w with
  | [] => refuse .emptyNumber
  | [.char '0'] => .ok 0
  | .char '0' :: .char 'b' :: rest => readIntIn 2 rest
  | .char '0' :: .char 'x' :: rest => readIntIn 16 rest
  | .char '0' :: _ => readIntIn 8 w
  | _ =>
    if w.contains (.char ':') then ((splitColons w).mapM (readIntIn 10)).map sixties
    else readIntIn 10 w

/-- **A whole number**: decimal, with a zero in front octal, with `0x` or `0b` in base sixteen or
two, or in parts of sixty. -/
def readInt (w : Wording) : Except DocumentFault Value := do
  let (negative, rest) ← splitSign (dropLines w)
  let n ← readMagnitude rest
  return .int (if negative then -n else n)

/-- A floating-point number as such, in lower case: digits with a point and a power of ten, or one
of the words for infinity and for no number. -/
def readDecimal (w : Wording) : Except DocumentFault Binary64 :=
  let (negative, unsigned) := trimSign w.shown
  let word := String.ofList unsigned
  if word = "inf" ∨ word = "infinity" then .ok (.infinity negative)
  else if word = "nan" then .ok .nan
  else
    let whole := unsigned.takeWhile Char.isDigit
    let rest := unsigned.drop whole.length
    let (fraction, rest) := match rest with
      | '.' :: rest => (rest.takeWhile Char.isDigit, rest.dropWhile Char.isDigit)
      | rest => ([], rest)
    let exponent? : Option Int := match rest with
      | [] => some 0
      | e :: rest =>
        let (down, digits) := match rest with
          | '-' :: digits => (true, digits)
          | '+' :: digits => (false, digits)
          | digits => (false, digits)
        if (e == 'e' || e == 'E') && allAndSome Char.isDigit digits then
          let n : Int := numberOf 10 digits
          some (if down then -n else n)
        else none
    match exponent? with
    | some exponent =>
      if whole.isEmpty && fraction.isEmpty then refuse (.notNumber w)
      else
        .ok (.ofDecimal negative (numberOf 10 (whole ++ fraction)) (exponent - fraction.length))
    | none => refuse (.notNumber w)

/-- The sum of parts of sixty, last to first. `weight` is what the next part counts. -/
def floatSixties (total : Binary64) (weight : Nat) :
    List Binary64 → Except DocumentFault Binary64
  | [] => .ok total
  | part :: rest =>
    match Binary64.ofNat? weight with
    | none => refuse .tooLarge
    | some factor => floatSixties (total.add (part.mul factor)) (weight * 60) rest

/-- **A floating-point number**, in parts of sixty where there are colons. -/
def readFloat (w : Wording) : Except DocumentFault Value := do
  let (negative, rest) ← splitSign (dropLines w).lowerCase
  let sign := fun (x : Binary64) => Value.float (if negative then x.neg else x)
  if rest = .ofString ".inf" then return sign (.infinity false)
  else if rest = .ofString ".nan" then return .float .nan
  else if rest.contains (.char ':') then
    let parts ← (splitColons rest).mapM readDecimal
    return sign (← floatSixties (.zero false) 1 parts.reverse)
  else return sign (← readDecimal rest)

/-- Whether a text is the word that stands for no number. -/
def isNanWord (w : Wording) : Bool :=
  match splitSign (dropLines w).lowerCase with
  | .ok (_, rest) => rest == .ofString ".nan"
  | .error _ => false

/-! ### Bytes and moments -/

/-- The six bits that a character of the notation of 64 characters stands for. -/
def sixBits? (c : Char) : Option Nat :=
  if 'A' ≤ c ∧ c ≤ 'Z' then some (c.toNat - 0x41)
  else if 'a' ≤ c ∧ c ≤ 'z' then some (c.toNat - 0x61 + 26)
  else if c.isDigit then some (c.toNat - 0x30 + 52)
  else if c = '+' then some 62
  else if c = '/' then some 63
  else none

/-- The bytes of a text in the notation of 64 characters; other characters are skipped. `held` are
the bits that make no byte yet, `filled` the number of characters they come from, and `pads` the
number of equals signs since the last of them. -/
def readSixBits (held filled pads : Nat) : List Char → Except DocumentFault (List UInt8)
  | [] => if filled = 0 then .ok [] else .error .malformed
  | c :: rest =>
    if c = '=' then
      if 2 ≤ filled then
        if 4 ≤ filled + (pads + 1) then .ok [] else readSixBits held filled (pads + 1) rest
      else readSixBits held filled pads rest
    else
      match sixBits? c with
      | none => readSixBits held filled pads rest
      | some bits =>
        let byte := fun (n : Nat) => UInt8.ofNat (n % 256)
        if filled = 0 then readSixBits bits 1 0 rest
        else if filled = 1 then
          (readSixBits (bits % 16) 2 0 rest).map (byte (held * 4 + bits / 16) :: ·)
        else if filled = 2 then
          (readSixBits (bits % 4) 3 0 rest).map (byte (held * 16 + bits / 4) :: ·)
        else (readSixBits 0 0 0 rest).map (byte (held * 64 + bits) :: ·)

/-- **Bytes** in the notation of 64 characters. -/
def readBytes (s : List Char) : Except DocumentFault Value :=
  if s.all (·.toNat < 0x80) then (readSixBits 0 0 0 s).map .bytes else .error .malformed

/-- A fault of the calendar as a fault of a document. -/
def onCalendar {α : Type} : Except CalendarFault α → Except DocumentFault α
  | .ok a => .ok a
  | .error fault => refuse (.calendar fault)

/-- **A date or a moment.** A newline at the end does not count. -/
def readTimestamp (s : List Char) : Except DocumentFault Value :=
  match readMoment? (dropNewline s) with
  | none => refuse .notMoment
  | some parts =>
    match parts.time with
    | none => (onCalendar (CivilDate.check parts.year parts.month parts.day)).map .date
    | some (hour, minute, second, micro) => do
      let offset ← match parts.offset with
        | none => .ok none
        | some minutes => (onCalendar (checkOffset minutes)).map some
      let date ← onCalendar (CivilDate.check parts.year parts.month parts.day)
      let time ← onCalendar (ClockTime.check hour minute second micro)
      return .moment ⟨date, time, offset⟩

/-- **The value of a text** of a kind. The kinds of collections are not kinds of texts. -/
def scalarValue (tag : Tag) (w : Wording) : Except DocumentFault Value :=
  match tag with
  | .null => .ok .null
  | .bool => readTruth w
  | .int => readInt w
  | .float => readFloat w
  | .binary => readBytes w.shown
  | .timestamp => readTimestamp w.shown
  | .str => .ok (.ofWording w)
  | _ => .error .malformed

end ShellPipeline.Document.Yaml
