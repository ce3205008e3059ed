import Mathlib.Data.List.TakeDrop
import Mathlib.Data.List.TakeWhile
import Parlance.Number.Numeral

namespace Parlance.Number

/-! # Whole numbers as they are spelled

The plain decimal spelling of a whole number is a numeral, and the floating number read from it is
the one that the whole number is rounded to.
-/

theorem toList_toString (value : Int) :
    (toString value).toList =
      if value < 0 then '-' :: Nat.toDigits 10 value.natAbs else Nat.toDigits 10 value.natAbs := by
  rw [Int.toString_eq_repr, Int.repr_eq_if]
  by_cases negative : value < 0
  · have size : (-value).toNat = value.natAbs := by omega
    rw [if_neg (Int.not_le.mpr negative), if_pos negative, String.toList_append, Nat.toList_repr,
      size]
    rfl
  · have size : value.toNat = value.natAbs := by omega
    rw [if_pos (Int.not_lt.mp negative), if_neg negative, Nat.toList_repr, size]

section Digits

variable {number : Nat}

theorem isDigit_of_mem_toDigits {c : Char} (member : c ∈ Nat.toDigits 10 number) :
    c.isDigit = true :=
  Nat.isDigit_of_mem_toDigits (by decide) (by decide) member

theorem digitsValue_toDigits (number : Nat) : digitsValue 0 (Nat.toDigits 10 number) = number :=
  Nat.ofDigitChars_ten_toDigits

theorem readSign_of_digits {text : List Char} (digits : ∀ c ∈ text, c.isDigit = true) :
    readSign text = (false, text) := by
  unfold readSign
  split
  · exact absurd (digits '-' List.mem_cons_self) (by decide)
  · exact absurd (digits '+' List.mem_cons_self) (by decide)
  · rfl

theorem readSign_toDigits (number : Nat) :
    readSign (Nat.toDigits 10 number) = (false, Nat.toDigits 10 number) :=
  readSign_of_digits fun _ => isDigit_of_mem_toDigits

theorem readSign_toString (value : Int) :
    readSign (toString value).toList = (decide (value < 0), Nat.toDigits 10 value.natAbs) := by
  rw [toList_toString]
  by_cases negative : value < 0
  · rw [if_pos negative, decide_eq_true negative]
    rfl
  · rw [if_neg negative, decide_eq_false negative, readSign_toDigits]

theorem toLower_of_isDigit {c : Char} (digit : c.isDigit = true) : c.toLower = c := by
  simp only [Char.isDigit, Bool.and_eq_true, decide_eq_true_eq, ge_iff_le,
    UInt32.le_iff_toNat_le] at digit
  have noUpper : ¬ (c.val ≥ 'A'.val ∧ c.val ≤ 'Z'.val) := by
    simp only [ge_iff_le, UInt32.le_iff_toNat_le]
    rintro ⟨letter, _⟩
    exact absurd (Nat.le_trans letter digit.2) (by decide)
  exact dif_neg noUpper

/-- A word with something in it that is no digit is not spelled by digits. -/
theorem lower_toDigits_ne {word : String} {c : Char} (member : c ∈ word.toList)
    (noDigit : c.isDigit = false) (number : Nat) :
    String.ofList ((Nat.toDigits 10 number).map Char.toLower) ≠ word := by
  rintro rfl
  rw [String.toList_ofList] at member
  obtain ⟨digit, present, rfl⟩ := List.mem_map.mp member
  have isDigit := isDigit_of_mem_toDigits present
  rw [toLower_of_isDigit isDigit, isDigit] at noDigit
  contradiction

theorem span_toDigits (number : Nat) :
    (Nat.toDigits 10 number).span Char.isDigit = (Nat.toDigits 10 number, []) := by
  have digits : ∀ c ∈ Nat.toDigits 10 number, c.isDigit = true := fun c => isDigit_of_mem_toDigits
  rw [List.span_eq_takeWhile_dropWhile, List.takeWhile_eq_self_iff.mpr digits,
    List.dropWhile_eq_nil_iff.mpr digits]

end Digits

theorem ofDecimal_of_whole {digits : Nat} (small : digits < powerOfTwo 64) (negative : Bool)
    (width : Nat) :
    ofDecimal binary64 negative digits width 0 = Floating.ofRatio binary64 negative digits 1 := by
  by_cases zero : digits = 0
  · simp only [ofDecimal, Floating.ofRatio, zero, if_true]
  have log : digits.log2 < 64 := log2_lt_of_lt zero small
  have finite : ¬ greatestPower < (digits.log2 : Int) / 4 + 0 := by
    unfold greatestPower
    omega
  have visible : ¬ (width : Int) + 0 < -greatestPower := by
    unfold greatestPower
    omega
  have units : digits * powerOfTen (0 : Int).toNat = digits := Nat.mul_one digits
  have unit : powerOfTen (-(0 : Int)).toNat = 1 := rfl
  rw [ofDecimal, if_neg zero, if_neg finite, if_neg visible, units, unit]

theorem readUnsigned?_toDigits {number : Nat} (small : number < powerOfTwo 64) (negative : Bool) :
    readUnsigned? binary64 negative (Nat.toDigits 10 number) =
      some (Floating.ofRatio binary64 negative number 1) := by
  have noPlaces : (0 : Int) - (([] : List Char).length : Int) = 0 := rfl
  simp only [readUnsigned?, span_toDigits, readFraction, Nat.toDigits_ne_nil, false_and, if_false,
    readPower?, Option.map_some, List.append_nil, digitsValue_toDigits, noPlaces,
    ofDecimal_of_whole small]

/-- A sign that may stand in front of the digits of a whole number. -/
inductive SignFor (value : Int) : List Char → Prop
  | minus (atMost : value ≤ 0) : SignFor value ['-']
  | plus (atLeast : 0 ≤ value) : SignFor value ['+']
  | none (atLeast : 0 ≤ value) : SignFor value []

/-- A text that stands for a whole number: a sign or none, any zeros, and the digits. -/
inductive NumeralFor (value : Int) : List Char → Prop
  | intro {sign : List Char} (signed : SignFor value sign) (zeros : Nat) :
      NumeralFor value (sign ++ (List.replicate zeros '0' ++ Nat.toDigits 10 value.natAbs))

section Numerals

variable {value : Int} {text : List Char}

theorem isDigit_of_mem_zeros {zeros number : Nat} {c : Char}
    (member : c ∈ List.replicate zeros '0' ++ Nat.toDigits 10 number) : c.isDigit = true := by
  rcases List.mem_append.mp member with zero | digit
  · rw [List.eq_of_mem_replicate zero]
    rfl
  · exact isDigit_of_mem_toDigits digit

theorem digitsValue_zeros (zeros number : Nat) :
    digitsValue 0 (List.replicate zeros '0' ++ Nat.toDigits 10 number) = number := by
  have value : Nat.ofDigitChars 10 (List.replicate zeros '0' ++ Nat.toDigits 10 number) 0 =
      number := by
    rw [Nat.ofDigitChars_append, Nat.ofDigitChars_replicate_zero, Nat.mul_zero,
      Nat.ofDigitChars_ten_toDigits]
  exact value

theorem SignFor.readSign {sign digits : List Char} (signed : SignFor value sign)
    (allDigits : ∀ c ∈ digits, c.isDigit = true) :
    Number.readSign (sign ++ digits) = (decide (sign = ['-']), digits) := by
  cases signed with
  | minus | plus => rfl
  | none => exact readSign_of_digits allDigits

theorem SignFor.signed {sign : List Char} (signed : SignFor value sign) :
    (if decide (sign = ['-']) then -(value.natAbs : Int) else value.natAbs) = value := by
  cases signed with
  | minus atMost =>
      simp only [decide_true, if_true]
      omega
  | plus atLeast | none atLeast =>
      simp only [List.cons.injEq, Char.reduceEq, reduceCtorEq, false_and, decide_false,
        Bool.false_eq_true, if_false]
      omega

/-- A numeral is read as its whole number, whatever zeros it begins with. -/
theorem NumeralFor.readInteger? (numeral : NumeralFor value text) (inRange : InRange value) :
    Number.readInteger? text = some value := by
  obtain @⟨sign, signed, zeros⟩ := numeral
  have digits : ∀ c ∈ List.replicate zeros '0' ++ Nat.toDigits 10 value.natAbs,
      c.isDigit = true := fun c => isDigit_of_mem_zeros
  have nonempty : List.replicate zeros '0' ++ Nat.toDigits 10 value.natAbs ≠ [] :=
    List.append_ne_nil_of_right_ne_nil _ Nat.toDigits_ne_nil
  simp only [Number.readInteger?, signed.readSign digits, digitsValue_zeros, signed.signed,
    if_pos (And.intro nonempty (List.all_eq_true.mpr digits)), if_pos inRange]

theorem numeralFor_toString (value : Int) : NumeralFor value (toString value).toList := by
  rw [toList_toString]
  split
  · rename_i negative
    exact .intro (.minus (Int.le_of_lt negative)) 0
  · rename_i nonnegative
    exact .intro (.none (Int.not_lt.mp nonnegative)) 0

end Numerals

theorem lt_of_inRange {value : Int} (inRange : InRange value) : value.natAbs < powerOfTwo 64 := by
  have limit : integerLimit < powerOfTwo 64 := by decide
  unfold InRange leastInteger greatestInteger at inRange
  omega

/-- Reading the spelling of a whole number is rounding that number. -/
theorem readFloating?_toString {value : Int} (inRange : InRange value) :
    readFloating? binary64 (toString value).toList = some (Floating.ofInt value) := by
  have infinity : ¬ (String.ofList ((Nat.toDigits 10 value.natAbs).map Char.toLower) = "inf" ∨
      String.ofList ((Nat.toDigits 10 value.natAbs).map Char.toLower) = "infinity") :=
    not_or.mpr ⟨lower_toDigits_ne (by decide : 'i' ∈ "inf".toList) (by decide) _,
      lower_toDigits_ne (by decide : 'i' ∈ "infinity".toList) (by decide) _⟩
  have nan := lower_toDigits_ne (by decide : 'n' ∈ "nan".toList) (by decide) value.natAbs
  simp only [readFloating?, readSign_toString, if_neg infinity, if_neg nan,
    readUnsigned?_toDigits (lt_of_inRange inRange)]
  rfl

end Parlance.Number
