import Parlance.Number.Integer
import Parlance.Number.Power

namespace Parlance.Number

/-! # Binary floating numbers

A finite floating number is `mantissa * 2 ^ exponent` with a sign, so zero has two forms.
Rounding is done on exact quotients: the mantissa nearest to the quotient is taken, and of
two equally near ones the even one.
-/

/-- How many bits a mantissa has, the least exponent, and the power of two from which on
numbers are infinite. -/
structure FloatFormat where
  precision : Nat
  leastExponent : Int
  limit : Nat

def binary64 : FloatFormat where
  precision := 53
  leastExponent := -1074
  limit := 1024

def binary32 : FloatFormat where
  precision := 24
  leastExponent := -149
  limit := 128

inductive Floating where
  | nan
  | infinite (negative : Bool)
  | finite (negative : Bool) (mantissa : Nat) (exponent : Int)
deriving Repr, DecidableEq, Inhabited

/-- The quotient rounded to the nearest whole number, a half to the even neighbour. -/
def roundEven (numerator denominator : Nat) : Nat :=
  let floor := numerator / denominator
  let twice := 2 * (numerator % denominator)
  if twice < denominator then floor
  else if denominator < twice then floor + 1
  else floor + floor % 2

/-- The quotient rounded to the nearest whole number, a half upwards. -/
def roundUp (numerator denominator : Nat) : Nat :=
  (2 * numerator + denominator) / (2 * denominator)

def magnitude (mantissa : Nat) (exponent : Int) : Nat × Nat :=
  (mantissa * powerOfTwo exponent.toNat, powerOfTwo (-exponent).toNat)

def floorLog2 (numerator denominator : Nat) : Int :=
  let guess : Int := (numerator.log2 : Int) - (denominator.log2 : Int)
  let (power, unit) := magnitude 1 guess
  if denominator * power ≤ numerator * unit then guess else guess - 1

namespace Floating

def ofRatio (format : FloatFormat) (negative : Bool) (numerator denominator : Nat) : Floating :=
  if numerator = 0 then finite negative 0 format.leastExponent
  else
    let exponent := max format.leastExponent
      (floorLog2 numerator denominator - ((format.precision : Int) - 1))
    let (power, unit) := magnitude 1 exponent
    let mantissa := roundEven (numerator * unit) (denominator * power)
    let (top, below) := magnitude mantissa exponent
    if powerOfTwo format.limit * below ≤ top then infinite negative
    else if mantissa = powerOfTwo format.precision then
      finite negative (powerOfTwo (format.precision - 1)) (exponent + 1)
    else finite negative mantissa exponent

def ofInt (value : Int) : Floating :=
  ofRatio binary64 (decide (value < 0)) value.natAbs 1

/-- The same number in the form of `binary64`, which has all numbers of `binary32`. -/
def widen : Floating → Floating
  | finite negative mantissa exponent =>
    let (top, below) := magnitude mantissa exponent
    ofRatio binary64 negative top below
  | other => other

def isFinite : Floating → Bool
  | finite .. => true
  | _ => false

/-- Equality of numbers: the two zeros are equal, and nothing equals `nan`. -/
def equal : Floating → Floating → Bool
  | nan, _ => false
  | _, nan => false
  | infinite negative, infinite otherNegative => negative == otherNegative
  | infinite _, finite .. => false
  | finite .., infinite _ => false
  | finite negative mantissa exponent, finite otherNegative otherMantissa otherExponent =>
    let (first, firstUnit) := magnitude mantissa exponent
    let (second, secondUnit) := magnitude otherMantissa otherExponent
    first * secondUnit == second * firstUnit &&
      (negative == otherNegative || mantissa == 0)

def hundredfold : Floating → Floating
  | finite negative mantissa exponent =>
    let (top, below) := magnitude mantissa exponent
    ofRatio binary64 negative (100 * top) below
  | other => other

/-- The nearest whole number, a half away from zero. The sign stays, also that of zero. -/
def round : Floating → Floating
  | finite negative mantissa exponent =>
    let (top, below) := magnitude mantissa exponent
    ofRatio binary64 negative (roundUp top below) 1
  | other => other

/-- The number as a whole number, if it is one and below `2 ^ 63` in magnitude. -/
def integral? : Floating → Option Int
  | finite negative mantissa exponent =>
    let (top, below) := magnitude mantissa exponent
    if top % below = 0 ∧ top / below < integerLimit then
      some (if negative then -((top / below : Nat) : Int) else ((top / below : Nat) : Int))
    else none
  | _ => none

end Floating

end Parlance.Number
