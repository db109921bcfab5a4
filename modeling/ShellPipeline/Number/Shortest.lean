import ShellPipeline.Number.Binary64

/-!
# The shortest decimal of a binary number

Of all decimals that round to a given number, the one with the fewest digits is written, and of
several of those the nearest to the number.

The reals that round to a number form an interval around it. It reaches half way to each neighbour,
and a quarter of the way below a power of two, where the lower neighbour is closer; its ends belong
to it where the mantissa is even. For one digit, two digits, and so on, the decimals with that many
digits form a grid. If any point of the grid is in the interval then one of the two around the
number is, so these two are all that has to be tried. Seventeen digits always suffice.

* `Interval` — the reals that round to a number, over a common denominator;
* `decimalExponent` — the power of ten of the first digit;
* `shortest` — the digits, and the power of ten of the last one.
-/

namespace ShellPipeline.Number

/-- The reals that round to a number. All three are over the same unit. -/
structure Interval where
  /-- The lower end. -/
  low : Nat
  /-- The number itself. -/
  value : Nat
  /-- The upper end. -/
  high : Nat
  /-- Whether the ends belong to it. -/
  closed : Bool

/-- The interval of a positive number, in quarters of two to its exponent. -/
def Interval.of (mantissa : Nat) (exponent : Int) : Interval where
  low := 4 * mantissa - if mantissa = Nat.pow 2 52 ∧ Binary64.minExponent < exponent then 1 else 2
  value := 4 * mantissa
  high := 4 * mantissa + 2
  closed := mantissa % 2 = 0

/-- Whether a point over the given unit lies in an interval over another. -/
def Interval.holds (i : Interval) (unit : Nat) (point : Nat) : Bool :=
  if i.closed then i.low * unit ≤ point && point ≤ i.high * unit
  else i.low * unit < point && point < i.high * unit

/-- The power of ten of the first digit of a positive ratio. -/
def decimalExponent (num den : Nat) : Int :=
  if den ≤ num then ((Nat.repr (num / den)).length : Int) - 1
  else
    let places := (Nat.repr (den / num)).length
    if den ≤ num * Nat.pow 10 (places - 1) then -((places : Int) - 1) else -(places : Int)

/-- The point of the grid at `10 ^ place` that is nearest to the number, if a point of that grid is
in its interval. -/
def nearestOn? (i : Interval) (exponent place : Int) : Option Nat :=
  let step := Nat.pow 10 place.toNat * Nat.pow 2 (2 - exponent).toNat
  let unit := Nat.pow 10 (-place).toNat * Nat.pow 2 (exponent - 2).toNat
  let value := i.value * unit
  let below := value / step
  let above := below + 1
  let nearer := value - below * step
  let farther := above * step - value
  match i.holds unit (below * step), i.holds unit (above * step) with
  | true, true =>
    some (if nearer < farther ∨ (nearer = farther ∧ below % 2 = 0) then below else above)
  | true, false => some below
  | false, true => some above
  | false, false => none

/-- A decimal: a whole number times a power of ten. -/
structure Decimal where
  /-- The digits. -/
  digits : Nat
  /-- The power of ten of the last digit. -/
  exponent : Int
deriving DecidableEq, Repr

/-- A decimal without the zeros at its end. The first argument bounds how many there may be. -/
def Decimal.trim : Nat → Decimal → Decimal
  | 0, d => d
  | bound + 1, d =>
    if d.digits % 10 = 0 ∧ d.digits ≠ 0 then trim bound ⟨d.digits / 10, d.exponent + 1⟩ else d

/-- **The shortest decimal** that rounds to the positive number `mantissa * 2 ^ exponent`. -/
def shortest (mantissa : Nat) (exponent : Int) : Decimal :=
  let (num, den) := Binary64.scale mantissa 1 (-exponent)
  let first := decimalExponent num den
  let i := Interval.of mantissa exponent
  let found := (List.range 17).findSome? fun (more : Nat) =>
    let place := first - more
    (nearestOn? i exponent place).map fun digits => (⟨digits, place⟩ : Decimal)
  (found.getD ⟨mantissa, exponent⟩).trim 17

example : shortest (3 * Nat.pow 2 51) (-52) = ⟨15, -1⟩ := by decide +kernel

end ShellPipeline.Number
