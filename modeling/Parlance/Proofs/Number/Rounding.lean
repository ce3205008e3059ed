import Parlance.Number.Floating

namespace Parlance.Number

/-! # Whole numbers as floating numbers

A whole number below two to the precision is a floating number. Greater ones are rounded, but never
below that bound. So a floating number that equals such a whole number was rounded from it and from
no other.
-/

section Rounding

theorem magnitude_natCast (mantissa exponent : Nat) :
    magnitude mantissa exponent = (mantissa * powerOfTwo exponent, 1) := by
  have noUnit : (-(exponent : Int)).toNat = 0 := by omega
  rw [magnitude, Int.toNat_natCast, noUnit]
  rfl

theorem magnitude_neg (mantissa exponent : Nat) :
    magnitude mantissa (-exponent) = (mantissa, powerOfTwo exponent) := by
  have noPower : (-(exponent : Int)).toNat = 0 := by omega
  rw [magnitude, Int.neg_neg, Int.toNat_natCast, noPower]
  exact congrArg (·, powerOfTwo exponent) (Nat.mul_one mantissa)

theorem roundEven_one (number : Nat) : roundEven number 1 = number := by
  simp [roundEven, Nat.mod_one]

theorem le_roundEven (numerator denominator : Nat) :
    numerator / denominator ≤ roundEven numerator denominator := by
  unfold roundEven
  dsimp only
  split
  · exact Nat.le_refl _
  split
  · exact Nat.le_succ _
  · exact Nat.le_add_right _ _

theorem floorLog2_one {number : Nat} (nonzero : number ≠ 0) : floorLog2 number 1 = number.log2 := by
  have guess : (number.log2 : Int) - ((1 : Nat).log2 : Int) = number.log2 :=
    Int.sub_zero _
  have least := powerOfTwo_log2_le nonzero
  simp only [floorLog2, guess, magnitude_natCast, Nat.one_mul, Nat.mul_one, if_pos least]

end Rounding

namespace Floating

variable {size : Nat}

theorem ofRatio_of_small (negative : Bool) (nonzero : size ≠ 0) (small : size < powerOfTwo 53) :
    ofRatio binary64 negative size 1 =
      finite negative (size * powerOfTwo (52 - size.log2)) (-(52 - size.log2 : Nat)) := by
  have log : size.log2 < 53 := log2_lt_of_lt nonzero small
  have exponent :
      max binary64.leastExponent ((size.log2 : Int) - ((binary64.precision : Int) - 1)) =
      -(52 - size.log2 : Nat) := by
    simp only [binary64]
    omega
  have bound : size * powerOfTwo (52 - size.log2) < powerOfTwo 53 := by
    have split : 53 = size.log2 + 1 + (52 - size.log2) := by omega
    rw [split, powerOfTwo_add]
    exact Nat.mul_lt_mul_of_pos_right (lt_powerOfTwo_log2 size) (powerOfTwo_pos _)
  have finite : ¬ powerOfTwo binary64.limit * powerOfTwo (52 - size.log2) ≤
      size * powerOfTwo (52 - size.log2) := by
    have limit : powerOfTwo 53 ≤ powerOfTwo binary64.limit := powerOfTwo_le (by decide)
    exact Nat.not_le.mpr (Nat.mul_lt_mul_of_pos_right (Nat.lt_of_lt_of_le small limit)
      (powerOfTwo_pos _))
  have noCarry : size * powerOfTwo (52 - size.log2) ≠ powerOfTwo binary64.precision :=
    Nat.ne_of_lt bound
  simp only [ofRatio, if_neg nonzero, floorLog2_one nonzero, exponent, magnitude_neg, Nat.mul_one,
    roundEven_one, if_neg finite, if_neg noCarry]

/-- A number with as many digits as the precision, or with more, is rounded to the precision. -/
theorem ofRatio_of_long (negative : Bool) (long : powerOfTwo 52 ≤ size) :
    let mantissa := roundEven size (powerOfTwo (size.log2 - 52))
    ofRatio binary64 negative size 1 =
      if powerOfTwo 1024 ≤ mantissa * powerOfTwo (size.log2 - 52) then infinite negative
      else if mantissa = powerOfTwo 53 then
        finite negative (powerOfTwo 52) ((size.log2 - 52 : Nat) + 1)
      else finite negative mantissa (size.log2 - 52 : Nat) := by
  intro mantissa
  have nonzero : size ≠ 0 := Nat.ne_of_gt (Nat.lt_of_lt_of_le (powerOfTwo_pos 52) long)
  have log : 52 ≤ size.log2 := le_log2_of_le nonzero long
  have exponent :
      max binary64.leastExponent ((size.log2 : Int) - ((binary64.precision : Int) - 1)) =
      (size.log2 - 52 : Nat) := by
    simp only [binary64]
    omega
  simp only [ofRatio, if_neg nonzero, floorLog2_one nonzero, exponent, magnitude_natCast,
    Nat.mul_one, Nat.one_mul]
  rfl

/-- Rounding does not take a great number below the bound. -/
theorem ofRatio_of_large (negative : Bool) (large : powerOfTwo 53 ≤ size) :
    ofRatio binary64 negative size 1 = infinite negative ∨
      ∃ mantissa exponent : Nat,
        ofRatio binary64 negative size 1 = finite negative mantissa exponent ∧
          powerOfTwo 53 ≤ mantissa * powerOfTwo exponent := by
  have nonzero : size ≠ 0 := Nat.ne_of_gt (Nat.lt_of_lt_of_le (powerOfTwo_pos 53) large)
  have log : 53 ≤ size.log2 := le_log2_of_le nonzero large
  have mantissa : powerOfTwo 52 ≤ roundEven size (powerOfTwo (size.log2 - 52)) := by
    have least := powerOfTwo_log2_le nonzero
    have parts : size.log2 = 52 + (size.log2 - 52) := by omega
    rw [parts, powerOfTwo_add] at least
    exact Nat.le_trans ((Nat.le_div_iff_mul_le (powerOfTwo_pos _)).mpr least) (le_roundEven _ _)
  have reach {whole power : Nat} (enough : powerOfTwo 52 ≤ whole) (positive : 1 ≤ power) :
      powerOfTwo 53 ≤ whole * powerOfTwo power :=
    Nat.mul_le_mul enough (powerOfTwo_le positive)
  rw [ofRatio_of_long negative (Nat.le_trans (powerOfTwo_le (by decide)) large)]
  split
  · exact Or.inl rfl
  right
  split
  · exact ⟨powerOfTwo 52, size.log2 - 52 + 1, rfl, reach (Nat.le_refl _) (by omega)⟩
  · exact ⟨_, size.log2 - 52, rfl, reach mantissa (by omega)⟩

theorem ofRatio_ne_nan (format : FloatFormat) (negative : Bool) (numerator denominator : Nat) :
    ofRatio format negative numerator denominator ≠ nan := by
  unfold ofRatio
  split
  · exact Floating.noConfusion
  dsimp only
  split
  · exact Floating.noConfusion
  split
  · exact Floating.noConfusion
  · exact Floating.noConfusion

theorem equal_self {number : Floating} (isNumber : number ≠ nan) : number.equal number = true := by
  cases number with
  | nan => exact absurd rfl isNumber
  | infinite negative => simp [equal]
  | finite negative mantissa exponent => simp [equal]

variable {value other : Int}

theorem equal_ofInt_self (value : Int) : (ofInt value).equal (ofInt value) = true :=
  equal_self (ofRatio_ne_nan _ _ _ _)

theorem exists_ofInt_of_small (small : value.natAbs < powerOfTwo 53) :
    ∃ shift : Nat, ofInt value =
      finite (decide (value < 0)) (value.natAbs * powerOfTwo shift) (-shift) := by
  by_cases zero : value.natAbs = 0
  · refine ⟨1074, ?_⟩
    simp only [ofInt, ofRatio, zero, if_true, Nat.zero_mul]
    rfl
  · exact ⟨_, ofRatio_of_small _ zero small⟩

theorem equal_of_wholes {negative negative' : Bool} {size size' shift shift' : Nat} :
    (finite negative (size * powerOfTwo shift) (-shift)).equal
        (finite negative' (size' * powerOfTwo shift') (-shift')) = true ↔
      size = size' ∧ (negative = negative' ∨ size = 0) := by
  have positive := powerOfTwo_pos shift
  have positive' := powerOfTwo_pos shift'
  have sizes : size * powerOfTwo shift * powerOfTwo shift' =
      size' * powerOfTwo shift' * powerOfTwo shift ↔ size = size' := by
    rw [Nat.mul_right_comm size', Nat.mul_left_inj (Nat.ne_of_gt positive'),
      Nat.mul_left_inj (Nat.ne_of_gt positive)]
  have nothing : size * powerOfTwo shift = 0 ↔ size = 0 := by
    rw [Nat.mul_eq_zero, or_iff_left (Nat.ne_of_gt positive)]
  simp only [equal, magnitude_neg, Bool.and_eq_true, Bool.or_eq_true, beq_iff_eq, sizes, nothing]

/-- Below the bound a floating number tells which whole number it was rounded from. -/
theorem equal_ofInt_iff (small : other.natAbs < powerOfTwo 53) :
    (ofInt value).equal (ofInt other) = true ↔ value = other := by
  obtain ⟨shift, rounded⟩ := exists_ofInt_of_small small
  rw [rounded]
  by_cases smallValue : value.natAbs < powerOfTwo 53
  · obtain ⟨shift', roundedValue⟩ := exists_ofInt_of_small smallValue
    rw [roundedValue, equal_of_wholes, decide_eq_decide]
    omega
  · have large : powerOfTwo 53 ≤ value.natAbs := Nat.not_lt.mp smallValue
    have different : value ≠ other := by
      rintro rfl
      exact smallValue small
    rw [iff_false_right different]
    rcases ofRatio_of_large (decide (value < 0)) large with
      infinite | ⟨mantissa, exponent, finite, bound⟩
    · rw [ofInt, infinite]
      exact Bool.false_ne_true
    · rw [ofInt, finite]
      simp only [equal, magnitude_neg, magnitude_natCast, Bool.and_eq_true, beq_iff_eq, Nat.mul_one]
      rintro ⟨same, _⟩
      have sizes := Nat.eq_of_mul_eq_mul_right (powerOfTwo_pos shift) same
      omega

end Floating

end Parlance.Number
