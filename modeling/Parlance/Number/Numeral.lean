import Parlance.Number.Floating

namespace Parlance.Number

/-! # Decimal numerals of floating numbers

A numeral is an optional sign and then either a word for an infinity or for no number, in
any case of letters, or digits with an optional point and an optional power of ten. There is
at least one digit before the power. The number read is the one nearest to the numeral.
-/

/-- Beyond these powers of ten every number is infinite or zero in all formats. -/
def greatestPower : Int := 400

/-- The number of the format nearest to `digits * 10 ^ power`, where `digits` has at most
`width` decimal places before the point. -/
def ofDecimal (format : FloatFormat) (negative : Bool) (digits width : Nat) (power : Int) :
    Floating :=
  if digits = 0 then .finite negative 0 format.leastExponent
  else if greatestPower < (digits.log2 : Int) / 4 + power then .infinite negative
  else if (width : Int) + power < -greatestPower then .finite negative 0 format.leastExponent
  else Floating.ofRatio format negative (digits * powerOfTen power.toNat)
    (powerOfTen (-power).toNat)

/-- The power of ten after the letter `e`, or zero where the text ends. -/
def readPower? : List Char → Option Int
  | [] => some 0
  | mark :: rest =>
    if mark = 'e' ∨ mark = 'E' then
      let (negative, digits) := readSign rest
      if digits ≠ [] ∧ digits.all Char.isDigit then
        let size : Int := digitsValue 0 digits
        some (if negative then -size else size)
      else none
    else none

def readFraction : List Char → List Char × List Char
  | '.' :: rest => rest.span Char.isDigit
  | input => ([], input)

def readUnsigned? (format : FloatFormat) (negative : Bool) (text : List Char) :
    Option Floating :=
  let (whole, afterWhole) := text.span Char.isDigit
  let (fraction, afterFraction) := readFraction afterWhole
  if whole = [] ∧ fraction = [] then none
  else
    (readPower? afterFraction).map fun power =>
      let digits := whole ++ fraction
      ofDecimal format negative (digitsValue 0 digits) digits.length (power - fraction.length)

def readFloating? (format : FloatFormat) (text : List Char) : Option Floating :=
  let (negative, unsigned) := readSign text
  let word := String.ofList (unsigned.map Char.toLower)
  if word = "inf" ∨ word = "infinity" then some (.infinite negative)
  else if word = "nan" then some .nan
  else readUnsigned? format negative unsigned

end Parlance.Number
