import Parlance.Number.Floating

namespace Parlance.Number

/-! # The shortest decimal of a floating number

Of all decimals that round to a binary64 number, its shortest decimal lies on the coarsest
grid of powers of ten. Two neighbours on that grid may qualify: the nearer one is taken, and
the greater one of two equally near ones.
-/

/-- The decimal `digits * 10 ^ exponent`. -/
structure Decimal where
  digits : Nat
  exponent : Int
deriving Repr, DecidableEq

/-- The decimals that round to a number: those between `low` and `high` quarters of
`2 ^ exponent`, where the number itself is `value` quarters. The ends belong to them if
`closed`. -/
structure RoundingInterval where
  low : Nat
  value : Nat
  high : Nat
  exponent : Int
  closed : Bool

/-- Below a power of two the numbers are twice as dense as above it. -/
def roundingInterval (mantissa : Nat) (exponent : Int) : RoundingInterval where
  low :=
    if mantissa = powerOfTwo (binary64.precision - 1) ∧ binary64.leastExponent < exponent then
      4 * mantissa - 1
    else 4 * mantissa - 2
  value := 4 * mantissa
  high := 4 * mantissa + 2
  exponent := exponent - 2
  closed := mantissa % 2 == 0

namespace RoundingInterval

/-- The factors that bring `units * 2 ^ interval.exponent` and `digits * 10 ^ power` to one
denominator. -/
def factors (interval : RoundingInterval) (power : Int) : Nat × Nat :=
  (powerOfTwo interval.exponent.toNat * powerOfTen (-power).toNat,
    powerOfTen power.toNat * powerOfTwo (-interval.exponent).toNat)

def contains (interval : RoundingInterval) (power : Int) (digits : Nat) : Bool :=
  let (binary, decimal) := interval.factors power
  let low := interval.low * binary
  let high := interval.high * binary
  let candidate := digits * decimal
  if interval.closed then low ≤ candidate && candidate ≤ high
  else low < candidate && candidate < high

/-- The qualifying decimal on the grid of a power of ten that is nearest to the number. -/
def onGrid? (interval : RoundingInterval) (power : Int) : Option Decimal :=
  let (binary, decimal) := interval.factors power
  let value := interval.value * binary
  let below := value / decimal
  let above := below + 1
  match interval.contains power below, interval.contains power above with
  | true, true =>
    if above * decimal - value ≤ value - below * decimal then some ⟨above, power⟩
    else some ⟨below, power⟩
  | true, false => some ⟨below, power⟩
  | false, true => some ⟨above, power⟩
  | false, false => none

/-- Searches the grids downwards from that of `power`. After the given number of grids the
number itself is on the grid. -/
def search (interval : RoundingInterval) : Nat → Int → Decimal
  | 0, power =>
    let (binary, decimal) := interval.factors power
    ⟨interval.value * binary / decimal, power⟩
  | finer + 1, power =>
    match interval.onGrid? power with
    | some found => found
    | none => interval.search finer (power - 1)

end RoundingInterval

def powerAbove (mantissa : Nat) (exponent : Int) : Int :=
  (exponent + mantissa.log2 + 1) * 30103 / 100000 + 1

def shortest (mantissa : Nat) (exponent : Int) : Decimal :=
  let coarsest := powerAbove mantissa exponent
  (roundingInterval mantissa exponent).search
    (coarsest - min exponent 0).toNat coarsest

example : shortest 1 (-1074) = ⟨5, -324⟩ := by decide +kernel
example : shortest 7205759403792794 (-56) = ⟨1, -1⟩ := by decide +kernel
example : shortest 4503599627370496 11 = ⟨9223372036854776, 3⟩ := by decide +kernel

end Parlance.Number
