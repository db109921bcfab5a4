import ShellPipeline.Document.Calendar
import ShellPipeline.Document.Wording

/-!
# Faults of a document

Why there is no document: the bytes are no text, the text breaks the rules of its format, or it
keeps them and one of its values cannot be made. The first two kinds are not looked into further.
The third is, since its wording names the value.
-/

namespace ShellPipeline.Document

/-- Why a value cannot be made. -/
inductive ValueFault where
  /-- Numbers that are no date or time. -/
  | calendar (fault : CalendarFault)
  /-- A text that is not a whole number in a base. -/
  | notInteger (text : Wording) (base : Nat)
  /-- A text that is not a number. -/
  | notNumber (text : Wording)
  /-- A whole number with more decimal digits than are read or written. -/
  | tooManyDigits (digits : Nat)
  /-- A text that is not a truth value. -/
  | notTruth (text : Wording)
  /-- A text that is not a moment. -/
  | notMoment
  /-- A mapping in place of the text of a moment. -/
  | momentInMapping
  /-- Collections inside each other, or mappings that wait for each other, beyond the limits of the
  run. -/
  | tooDeep
  /-- An empty text in place of a number. -/
  | emptyNumber
  /-- A whole number beyond all floating-point numbers. -/
  | tooLarge
  /-- A number that no character has. -/
  | notCharacter (number : Nat)
deriving DecidableEq, Repr

/-- The number of characters that are shown of a text that is not a whole number, quote marks
included. -/
def shownLength : Nat := 200

/-- The wording of a fault. -/
def ValueFault.message : ValueFault → String
  | calendar fault => fault.message
  | notInteger text base =>
    "invalid literal for int() with base " ++ toString base ++ ": " ++
      String.ofList (text.quoteChars.take shownLength)
  | notNumber text => "could not convert string to float: " ++ text.quote
  | tooManyDigits digits =>
    "Exceeds the limit (4300 digits) for integer string conversion: value has " ++
      toString digits ++ " digits; use sys.set_int_max_str_digits() to increase the limit"
  | notTruth text => text.quote
  | notMoment => "'NoneType' object has no attribute 'groupdict'"
  | momentInMapping => "expected string or bytes-like object, got 'list'"
  | tooDeep => "maximum recursion depth exceeded"
  | emptyNumber => "string index out of range"
  | tooLarge => "int too large to convert to float"
  | notCharacter number =>
    if number < Nat.pow 2 31 then "chr() arg not in range(0x110000)"
    else "Python int too large to convert to C int"

/-- The largest number of decimal digits of a whole number that is read or written. -/
def digitLimit : Nat := 4300

/-- **Why there is no document.** -/
inductive DocumentFault where
  /-- The bytes are no text. -/
  | notText
  /-- The rules of the format are broken. -/
  | malformed
  /-- A value cannot be made. -/
  | value (fault : ValueFault)
deriving DecidableEq, Repr

end ShellPipeline.Document
