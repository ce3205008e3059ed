namespace Parlance.Number

/-! # Whole numbers of 64 bits

A numeral is an optional sign and at least one of the digits 0 to 9. Numerals outside the
range from `-2 ^ 63` to `2 ^ 63 - 1` are refused.
-/

/-- The least size of a number that is out of range, whatever its sign. -/
def integerLimit : Nat := 9223372036854775808

def leastInteger : Int := -integerLimit

def greatestInteger : Int := integerLimit - 1

def InRange (value : Int) : Prop :=
  leastInteger ≤ value ∧ value ≤ greatestInteger

instance (value : Int) : Decidable (InRange value) :=
  inferInstanceAs (Decidable (_ ∧ _))

def digitValue (c : Char) : Nat :=
  c.toNat - 48

/-- The value of decimal digits, read after the digits whose value is `before`. -/
def digitsValue (before : Nat) (digits : List Char) : Nat :=
  digits.foldl (fun value c => 10 * value + digitValue c) before

def readSign : List Char → Bool × List Char
  | '-' :: rest => (true, rest)
  | '+' :: rest => (false, rest)
  | input => (false, input)

def readInteger? (text : List Char) : Option Int :=
  let (negative, digits) := readSign text
  if digits ≠ [] ∧ digits.all Char.isDigit then
    let size : Int := digitsValue 0 digits
    let value := if negative then -size else size
    if InRange value then some value else none
  else none

end Parlance.Number
