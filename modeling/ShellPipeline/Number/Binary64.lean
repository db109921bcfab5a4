/-!
# Binary floating-point numbers

The numbers of a 64-bit floating-point format, held as what they mean: a sign, a whole mantissa and
a power of two. The mantissa is below `2 ^ 53`; the exponent lies between `-1074` and `971`; and the
mantissa is at least `2 ^ 52` unless the exponent is the smallest. So every number but zero is held
in one way only. Zero has a sign.

Arithmetic is exact arithmetic on ratios of whole numbers, rounded once: to the nearest number of
the format, of two equally near ones to the one with the even mantissa, and to infinity beyond the
largest.

* `Binary64.ofRatio` — the number nearest to a ratio;
* `Binary64.ofDecimal` — the number nearest to a decimal;
* `add`, `mul`, `sameValue` — arithmetic and comparison.
-/

namespace ShellPipeline.Number

/-- **A number of the 64-bit format**, or one of the values beside the numbers. -/
inductive Binary64 where
  /-- No number at all. -/
  | nan
  /-- Beyond the largest number. -/
  | infinity (negative : Bool)
  /-- The mantissa times two to the exponent. -/
  | finite (negative : Bool) (mantissa : Nat) (exponent : Int)
deriving DecidableEq, Repr, Inhabited

namespace Binary64

/-- The smallest exponent. -/
def minExponent : Int := -1074

/-- The largest exponent. -/
def maxExponent : Int := 971

/-- Zero, with its sign. -/
def zero (negative : Bool) : Binary64 := .finite negative 0 minExponent

/-- A ratio divided by two to an exponent, as a ratio of whole numbers again. -/
def scale (num den : Nat) (exponent : Int) : Nat × Nat :=
  if exponent < 0 then (num * Nat.pow 2 (-exponent).toNat, den)
  else (num, den * Nat.pow 2 exponent.toNat)

/-- A ratio rounded to a whole number: to the nearest one, of two equally near ones to the even
one. -/
def roundHalfEven (num den : Nat) : Nat :=
  let quotient := num / den
  let twice := 2 * (num % den)
  if twice < den then quotient
  else if den < twice then quotient + 1
  else quotient + quotient % 2

/-- The exponent at which a positive ratio has a mantissa of 53 digits. The digits of its two sides
tell it up to one. -/
def exponentOf (num den : Nat) : Int :=
  let guess : Int := (num.log2 : Int) - den.log2 - 52
  let (a, b) := scale num den guess
  if a < b * Nat.pow 2 52 then guess - 1 else guess

/-- **The number nearest to a ratio** of two whole numbers, the second of which is not zero. -/
def ofRatio (negative : Bool) (num den : Nat) : Binary64 :=
  if num = 0 then zero negative
  else
    let exponent := max (exponentOf num den) minExponent
    let (a, b) := scale num den exponent
    let mantissa := roundHalfEven a b
    let (mantissa, exponent) :=
      if mantissa = Nat.pow 2 53 then (Nat.pow 2 52, exponent + 1) else (mantissa, exponent)
    if maxExponent < exponent then .infinity negative else .finite negative mantissa exponent

/-- **The number nearest to a decimal**: a whole number times a power of ten. A power far outside
the range of the format decides without being computed. -/
def ofDecimal (negative : Bool) (digits : Nat) (exponent : Int) : Binary64 :=
  let magnitude := exponent + (Nat.repr digits).length
  if digits = 0 ∨ magnitude < -400 then zero negative
  else if 400 < magnitude then .infinity negative
  else if exponent < 0 then ofRatio negative digits (Nat.pow 10 (-exponent).toNat)
  else ofRatio negative (digits * Nat.pow 10 exponent.toNat) 1

/-- A whole number, where it is within the range of the format. -/
def ofNat? (n : Nat) : Option Binary64 :=
  match ofRatio false n 1 with
  | .infinity _ => none
  | x => some x

/-- The number with the other sign. -/
def neg : Binary64 → Binary64
  | nan => nan
  | infinity negative => infinity !negative
  | finite negative mantissa exponent => finite (!negative) mantissa exponent

/-- Whether a value is zero, of either sign. -/
def isZero : Binary64 → Bool
  | finite _ mantissa _ => mantissa == 0
  | _ => false

/-- The mantissa of a finite number at a lower exponent, with its sign. -/
def signedAt (low : Int) (negative : Bool) (mantissa : Nat) (exponent : Int) : Int :=
  let n : Int := mantissa * Nat.pow 2 (exponent - low).toNat
  if negative then -n else n

/-- **The sum of two numbers.** Two infinities of different signs have none. A sum that is zero is
negative only if both zeros are. -/
def add : Binary64 → Binary64 → Binary64
  | nan, _ | _, nan => nan
  | infinity s, infinity t => if s = t then infinity s else nan
  | infinity s, finite .. | finite .., infinity s => infinity s
  | finite s m e, finite t n f =>
    let low := min e f
    let total := signedAt low s m e + signedAt low t n f
    let (a, b) := scale total.natAbs 1 (-low)
    if total = 0 then zero (s && t) else ofRatio (decide (total < 0)) a b

/-- **The product of two numbers.** Zero and infinity have none. -/
def mul : Binary64 → Binary64 → Binary64
  | nan, _ | _, nan => nan
  | infinity s, infinity t => infinity (s != t)
  | infinity s, finite t n _ | finite t n _, infinity s => if n = 0 then nan else infinity (s != t)
  | finite s m e, finite t n f =>
    let (a, b) := scale (m * n) 1 (-(e + f))
    ofRatio (s != t) a b

/-- Whether a value is the whole number `n`. -/
def isInt (x : Binary64) (n : Int) : Bool :=
  match x with
  | finite negative mantissa exponent =>
    let (a, b) := scale mantissa 1 (-exponent)
    a == n.natAbs * b && (n == 0 || negative == decide (n < 0))
  | _ => false

/-- Whether two values compare as equal: zeros of both signs do, and what is no number equals
nothing. -/
def sameValue : Binary64 → Binary64 → Bool
  | nan, _ | _, nan => false
  | x, y => x == y || (x.isZero && y.isZero)

example : ofDecimal false 15 (-1) = .finite false (3 * Nat.pow 2 51) (-52) := by decide +kernel

/-- The smallest number of all. -/
example : ofDecimal false 5 (-324) = .finite false 1 (-1074) := by decide +kernel

/-- Half of it is a tie, and zero is even. -/
example : ofRatio false 1 (Nat.pow 2 1075) = zero false := by decide +kernel

end Binary64

end ShellPipeline.Number
