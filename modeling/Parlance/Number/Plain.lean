import Parlance.Number.Shortest

namespace Parlance.Number

/-! # Plain notation

Numbers are written without a power of ten: zeros fill the places up to the point. A
fraction does not end in a zero, and a whole number has no point.
-/

/-- Drops zeros at the end of a fraction of `places` digits. -/
def dropZeros : Nat → Nat → Nat × Nat
  | 0, digits => (0, digits)
  | places + 1, digits =>
    if digits % 10 = 0 then dropZeros places (digits / 10) else (places + 1, digits)

def zeros (count : Nat) : String :=
  String.ofList (List.replicate count '0')

/-- The digits with a point before the last `places` of them. -/
def pointed (places : Nat) (digits : Nat) : String :=
  let text := Nat.toDigits 10 digits
  if places = 0 then String.ofList text
  else if places < text.length then
    String.ofList (text.take (text.length - places)) ++ "." ++
      String.ofList (text.drop (text.length - places))
  else "0." ++ zeros (places - text.length) ++ String.ofList text

def Decimal.plain (decimal : Decimal) : String :=
  let (places, digits) := dropZeros (-decimal.exponent).toNat decimal.digits
  pointed places digits ++ zeros decimal.exponent.toNat

/-- The shortest plain notation that reads back as the same number. -/
def Floating.plain : Floating → String
  | .nan => "NaN"
  | .infinite negative => if negative then "-inf" else "inf"
  | .finite negative mantissa exponent =>
    let size := if mantissa = 0 then "0" else (shortest mantissa exponent).plain
    if negative then "-" ++ size else size

example : (Floating.ofRatio binary64 false 1 10).plain = "0.1" := by decide +kernel
example : (Floating.ofRatio binary64 true 25 2).plain = "-12.5" := by decide +kernel
example : (Floating.ofRatio binary64 false (powerOfTen 21) 1).plain = "1000000000000000000000" := by
  decide +kernel
example : (Floating.ofRatio binary64 false 1 (powerOfTwo 25)).plain = "0.000000029802322387695313" := by
  decide +kernel

end Parlance.Number
