import ShellPipeline.Number.Shortest

/-!
# The text of a binary number

How the shortest decimal of a number is laid out: as digits with a point, where the first digit is
not too far from the point, and with a power of ten otherwise. What is too far, and how a number
without a fraction and an exponent are written, is set by a `Layout`.
-/

namespace ShellPipeline.Number

/-- The decisions of a number format. -/
structure Layout where
  /-- The first power of ten that is too large for the form without an exponent. -/
  positionalBelow : Int
  /-- The smallest power of ten that is written without an exponent. -/
  positionalFrom : Int
  /-- What stands behind a number without a fraction. -/
  wholeEnding : String
  /-- The least number of digits of an exponent. -/
  exponentWidth : Nat
  /-- The text of infinity. -/
  infinity : String
  /-- The text of what is no number. -/
  nan : String

namespace Layout

/-- A number's digits, filled up with zeros on the left. -/
def padded (width n : Nat) : String :=
  let digits := Nat.repr n
  String.ofList (List.replicate (width - digits.length) '0') ++ digits

/-- The digits of a positive decimal with a point among them. -/
def positional (layout : Layout) (digits : List Char) (exponent : Int) : String :=
  if 0 ≤ exponent then
    String.ofList (digits ++ List.replicate exponent.toNat '0') ++ layout.wholeEnding
  else
    let places := (-exponent).toNat
    let filled := List.replicate (places + 1 - digits.length) '0' ++ digits
    String.ofList (filled.take (filled.length - places)) ++ "." ++
      String.ofList (filled.drop (filled.length - places))

/-- The digits of a positive decimal with a point behind the first, and a power of ten. -/
def scientific (layout : Layout) (digits : List Char) (first : Int) : String :=
  let fraction := digits.drop 1
  String.ofList (digits.take 1) ++
    (if fraction.isEmpty then "" else "." ++ String.ofList fraction) ++
    "e" ++ (if first < 0 then "-" else "+") ++ padded layout.exponentWidth first.natAbs

/-- The text of a positive decimal. -/
def decimal (layout : Layout) (d : Decimal) : String :=
  let digits := (Nat.repr d.digits).toList
  let first := d.exponent + digits.length - 1
  if layout.positionalFrom ≤ first ∧ first < layout.positionalBelow then
    layout.positional digits d.exponent
  else layout.scientific digits first

/-- **The text of a number.** -/
def text (layout : Layout) : Binary64 → String
  | .nan => layout.nan
  | .infinity negative => (if negative then "-" else "") ++ layout.infinity
  | .finite negative mantissa exponent =>
    (if negative then "-" else "") ++
      if mantissa = 0 then "0" ++ layout.wholeEnding
      else layout.decimal (shortest mantissa exponent)

end Layout

end ShellPipeline.Number
