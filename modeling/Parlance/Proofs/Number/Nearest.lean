import Parlance.Proofs.Number.Rounding

namespace Parlance.Number

/-! # The nearest floating whole number

A whole number becomes the floating number that is nearest to it, and of two equally near ones the
one that is an even multiple of their distance. So it stays itself only if it has the precision of
floating numbers, apart from zeros behind its last binary place.
-/

section Quotients

variable {numerator denominator : Nat}

/-- The rounded quotient is off by half a unit at most, and by half a unit only if it is even. -/
theorem roundEven_spec (numerator : Nat) (positive : 0 < denominator) :
    let error := ((numerator : Int) - (roundEven numerator denominator * denominator : Nat)).natAbs
    2 * error ≤ denominator ∧
      (2 * error = denominator → roundEven numerator denominator % 2 = 0) := by
  have parts : numerator / denominator * denominator + numerator % denominator = numerator := by
    rw [Nat.mul_comm]
    exact Nat.div_add_mod numerator denominator
  have rest : numerator % denominator < denominator := Nat.mod_lt _ positive
  have next : (numerator / denominator + 1) * denominator =
      numerator / denominator * denominator + denominator := Nat.succ_mul _ _
  unfold roundEven
  dsimp only
  split
  · omega
  split
  · rw [next]
    omega
  rcases Nat.mod_two_eq_zero_or_one (numerator / denominator) with even | odd
  · rw [even, Nat.add_zero]
    omega
  · rw [odd, next]
    omega

/-- Different multiples of the denominator are a denominator apart. -/
theorem le_distance_of_ne (denominator : Nat) {first second : Nat} (different : first ≠ second) :
    denominator ≤ ((first * denominator : Nat) - (second * denominator : Nat) : Int).natAbs := by
  rcases Nat.lt_or_gt_of_ne different with less | greater
  · have step := Nat.mul_le_mul_right denominator less
    rw [Nat.succ_mul] at step
    omega
  · have step := Nat.mul_le_mul_right denominator greater
    rw [Nat.succ_mul] at step
    omega

theorem roundEven_nearest (positive : 0 < denominator) (other : Nat) :
    ((numerator : Int) - (roundEven numerator denominator * denominator : Nat)).natAbs ≤
      ((numerator : Int) - (other * denominator : Nat)).natAbs := by
  by_cases same : roundEven numerator denominator = other
  · subst other
    exact Nat.le_refl _
  · have apart := le_distance_of_ne denominator same
    have error := (roundEven_spec numerator positive).1
    omega

theorem roundEven_tie (positive : 0 < denominator) {other : Nat}
    (different : roundEven numerator denominator ≠ other)
    (tie : ((numerator : Int) - (other * denominator : Nat)).natAbs =
      ((numerator : Int) - (roundEven numerator denominator * denominator : Nat)).natAbs) :
    roundEven numerator denominator % 2 = 0 ∧
      ((other * denominator : Nat) - (roundEven numerator denominator * denominator : Nat) :
        Int).natAbs = denominator := by
  have apart := le_distance_of_ne denominator different
  obtain ⟨error, even⟩ := roundEven_spec numerator positive
  refine ⟨even (by omega), by omega⟩

theorem roundEven_le {bound : Nat} (positive : 0 < denominator)
    (small : numerator ≤ bound * denominator) : roundEven numerator denominator ≤ bound := by
  refine Nat.not_lt.mp fun above => ?_
  have step := Nat.mul_le_mul_right denominator above
  rw [Nat.succ_mul] at step
  have error := (roundEven_spec numerator positive).1
  omega

end Quotients

/-- A size that a floating number can have: a mantissa and zeros behind it. -/
def IsFloatingSize (size : Nat) : Prop :=
  ∃ mantissa exponent : Nat, mantissa < powerOfTwo 53 ∧ size = mantissa * powerOfTwo exponent

/-- The distance of floating numbers of about the given size. -/
def unitOf (size : Nat) : Nat :=
  powerOfTwo (size.log2 - 52)

def nearestSize (size : Nat) : Nat :=
  roundEven size (unitOf size) * unitOf size

section Sizes

variable {size other : Nat}

theorem isFloatingSize_of_lt (small : size < powerOfTwo 53) : IsFloatingSize size :=
  ⟨size, 0, small, (Nat.mul_one size).symm⟩

theorem isFloatingSize_powerOfTwo (exponent : Nat) : IsFloatingSize (powerOfTwo exponent) :=
  ⟨1, exponent, by decide, (Nat.one_mul _).symm⟩

theorem unitOf_pos (size : Nat) : 0 < unitOf size :=
  powerOfTwo_pos _

theorem unitOf_of_short (short : size < powerOfTwo 52) : unitOf size = 1 := by
  by_cases zero : size = 0
  · subst size
    rfl
  · have log : size.log2 - 52 = 0 := Nat.sub_eq_zero_of_le (Nat.le_of_lt (log2_lt_of_lt zero short))
    rw [unitOf, log]
    rfl

theorem nearestSize_of_short (short : size < powerOfTwo 52) : nearestSize size = size := by
  rw [nearestSize, unitOf_of_short short, roundEven_one, Nat.mul_one]

theorem lt_units (size : Nat) : size < powerOfTwo 53 * unitOf size := by
  have bound : powerOfTwo (size.log2 + 1) ≤ powerOfTwo (53 + (size.log2 - 52)) :=
    powerOfTwo_le (by omega)
  rw [powerOfTwo_add 53] at bound
  exact Nat.lt_of_lt_of_le (lt_powerOfTwo_log2 size) bound

theorem units_le (long : powerOfTwo 52 ≤ size) : powerOfTwo 52 * unitOf size ≤ size := by
  have nonzero : size ≠ 0 := Nat.ne_of_gt (Nat.lt_of_lt_of_le (powerOfTwo_pos 52) long)
  have log : size.log2 = 52 + (size.log2 - 52) := by
    have := le_log2_of_le nonzero long
    omega
  have least := powerOfTwo_log2_le nonzero
  rwa [log, powerOfTwo_add] at least

theorem isFloatingSize_nearestSize (size : Nat) : IsFloatingSize (nearestSize size) := by
  have bound : roundEven size (unitOf size) ≤ powerOfTwo 53 :=
    roundEven_le (unitOf_pos size) (Nat.le_of_lt (lt_units size))
  rcases Nat.lt_or_eq_of_le bound with below | carried
  · exact ⟨_, _, below, rfl⟩
  · refine ⟨powerOfTwo 52, size.log2 - 52 + 1, by decide, ?_⟩
    rw [nearestSize, carried, unitOf, Nat.add_comm (size.log2 - 52), powerOfTwo_add 1,
      ← Nat.mul_assoc]
    rfl

/-- Floating numbers from the least one of as many binary places on are multiples of the unit. -/
theorem exists_units (floating : IsFloatingSize other)
    (reaches : powerOfTwo 52 * unitOf size ≤ other) : ∃ count, other = count * unitOf size := by
  obtain ⟨mantissa, exponent, below, rfl⟩ := floating
  by_cases order : size.log2 - 52 ≤ exponent
  · refine ⟨mantissa * powerOfTwo (exponent - (size.log2 - 52)), ?_⟩
    rw [Nat.mul_assoc, unitOf, ← powerOfTwo_add, Nat.sub_add_cancel order]
  · have less : mantissa * powerOfTwo exponent < powerOfTwo 53 * powerOfTwo exponent :=
      Nat.mul_lt_mul_of_pos_right below (powerOfTwo_pos exponent)
    have step : powerOfTwo (53 + exponent) ≤ powerOfTwo (52 + (size.log2 - 52)) :=
      powerOfTwo_le (by omega)
    rw [powerOfTwo_add, powerOfTwo_add] at step
    exact absurd (Nat.lt_of_lt_of_le less step) (Nat.not_lt.mpr reaches)

/-- A number with fewer binary places is further off. -/
theorem nearestSize_nearer (long : powerOfTwo 52 ≤ size)
    (shorter : other < powerOfTwo 52 * unitOf size) :
    ((size : Int) - nearestSize size).natAbs < ((size : Int) - other).natAbs := by
  have least : ((size : Int) - nearestSize size).natAbs ≤
      ((size : Int) - (powerOfTwo 52 * unitOf size : Nat)).natAbs :=
    roundEven_nearest (unitOf_pos size) (powerOfTwo 52)
  have atMost := units_le long
  omega

theorem nearestSize_nearest (size : Nat) (floating : IsFloatingSize other) :
    ((size : Int) - nearestSize size).natAbs ≤ ((size : Int) - other).natAbs := by
  by_cases long : powerOfTwo 52 ≤ size
  · by_cases reaches : powerOfTwo 52 * unitOf size ≤ other
    · obtain ⟨count, rfl⟩ := exists_units floating reaches
      exact roundEven_nearest (unitOf_pos size) count
    · exact Nat.le_of_lt (nearestSize_nearer long (Nat.not_le.mp reaches))
  · rw [nearestSize_of_short (Nat.not_le.mp long)]
    omega

theorem nearestSize_even (floating : IsFloatingSize other) (different : other ≠ nearestSize size)
    (tie : ((size : Int) - other).natAbs = ((size : Int) - nearestSize size).natAbs) :
    2 * ((other : Int) - nearestSize size).natAbs ∣ nearestSize size := by
  by_cases long : powerOfTwo 52 ≤ size
  · by_cases reaches : powerOfTwo 52 * unitOf size ≤ other
    · obtain ⟨count, rfl⟩ := exists_units floating reaches
      have counts : roundEven size (unitOf size) ≠ count := by
        rintro rfl
        exact different rfl
      obtain ⟨even, gap⟩ := roundEven_tie (unitOf_pos size) counts tie
      rw [nearestSize, gap]
      exact Nat.mul_dvd_mul_right (Nat.dvd_of_mod_eq_zero even) _
    · have nearer := nearestSize_nearer long (Nat.not_le.mp reaches)
      exact absurd tie (Nat.ne_of_gt nearer)
  · have exact : nearestSize size = size := nearestSize_of_short (Nat.not_le.mp long)
    omega

theorem nearestSize_of_floating (floating : IsFloatingSize size) : nearestSize size = size := by
  have nearest := nearestSize_nearest size floating
  omega

theorem nearestSize_le {exponent : Nat} (small : size ≤ powerOfTwo exponent) :
    nearestSize size ≤ powerOfTwo exponent := by
  have nearest := nearestSize_nearest size (isFloatingSize_powerOfTwo exponent)
  omega

end Sizes

namespace Floating

/-- The number is a whole one of the size. -/
def IsWhole (number : Floating) (negative : Bool) (size : Nat) : Prop :=
  ∃ mantissa exponent below, number = finite negative mantissa exponent ∧ 0 < below ∧
    magnitude mantissa exponent = (size * below, below)

variable {number : Floating} {negative : Bool} {size : Nat}

/-- A whole number becomes the nearest floating number. -/
theorem ofRatio_isWhole (negative : Bool) (small : size ≤ powerOfTwo 63) :
    (ofRatio binary64 negative size 1).IsWhole negative (nearestSize size) := by
  by_cases zero : size = 0
  · subst size
    refine ⟨0, -(1074 : Nat), powerOfTwo 1074, rfl, powerOfTwo_pos _, ?_⟩
    rw [magnitude_neg, nearestSize_of_short (powerOfTwo_pos 52), Nat.zero_mul]
  by_cases short : size < powerOfTwo 53
  · refine ⟨_, _, powerOfTwo (52 - size.log2), ofRatio_of_small negative zero short,
      powerOfTwo_pos _, ?_⟩
    rw [magnitude_neg, nearestSize_of_floating (isFloatingSize_of_lt short)]
  have long : powerOfTwo 52 ≤ size := Nat.le_trans (powerOfTwo_le (by decide)) (Nat.not_lt.mp short)
  have bound : nearestSize size < powerOfTwo 1024 :=
    Nat.lt_of_le_of_lt (nearestSize_le small)
      (Nat.lt_of_lt_of_le (by decide : powerOfTwo 63 < powerOfTwo 64) (powerOfTwo_le (by decide)))
  rw [ofRatio_of_long negative long]
  rw [nearestSize, unitOf] at bound ⊢
  rw [if_neg (Nat.not_le.mpr bound)]
  by_cases carried : roundEven size (powerOfTwo (size.log2 - 52)) = powerOfTwo 53
  · rw [if_pos carried, carried]
    refine ⟨powerOfTwo 52, (size.log2 - 52 + 1 : Nat), 1, rfl, by decide, ?_⟩
    rw [magnitude_natCast, Nat.mul_one, Nat.add_comm, powerOfTwo_add 1, ← Nat.mul_assoc]
    rfl
  · rw [if_neg carried]
    refine ⟨_, (size.log2 - 52 : Nat), 1, rfl, by decide, ?_⟩
    rw [magnitude_natCast, Nat.mul_one]

theorem roundUp_mul {below : Nat} (positive : 0 < below) (size : Nat) :
    roundUp (size * below) below = size := by
  apply Nat.div_eq_of_lt_le
  · rw [Nat.mul_left_comm]
    omega
  · rw [Nat.add_mul, Nat.one_mul, Nat.mul_left_comm]
    omega

theorem IsWhole.round_eq (whole : number.IsWhole negative size) :
    number.round = ofRatio binary64 negative size 1 := by
  obtain ⟨mantissa, exponent, below, rfl, positive, parts⟩ := whole
  rw [round, parts]
  simp only [roundUp_mul positive]

theorem IsWhole.integral?_eq (whole : number.IsWhole negative size) :
    number.integral? = if size < integerLimit then
      some (if negative then -(size : Int) else size) else none := by
  obtain ⟨mantissa, exponent, below, rfl, positive, parts⟩ := whole
  rw [integral?, parts]
  simp only [Nat.mul_mod_left, true_and, Nat.mul_div_cancel _ positive]

end Floating

/-- The whole number that a whole number becomes as a floating number. -/
def nearestWhole (value : Int) : Int :=
  if value < 0 then -(nearestSize value.natAbs : Int) else nearestSize value.natAbs

/-- What is asked of rounding: a floating number that is as near as any other one, and an even
multiple of the distance to another one that is as near. -/
structure RoundsTo (value rounded : Int) : Prop where
  floating : IsFloatingSize rounded.natAbs
  nearest : ∀ other : Int, IsFloatingSize other.natAbs →
    (value - rounded).natAbs ≤ (value - other).natAbs
  even : ∀ other : Int, IsFloatingSize other.natAbs → other ≠ rounded →
    (value - other).natAbs = (value - rounded).natAbs → 2 * (other - rounded) ∣ rounded

section Wholes

variable {value : Int}

theorem natAbs_nearestWhole (value : Int) :
    (nearestWhole value).natAbs = nearestSize value.natAbs := by
  unfold nearestWhole
  split <;> omega

theorem nearestWhole_eq_iff : nearestWhole value = value ↔ IsFloatingSize value.natAbs := by
  constructor
  · intro same
    rw [← same, natAbs_nearestWhole]
    exact isFloatingSize_nearestSize _
  · intro floating
    rw [nearestWhole, nearestSize_of_floating floating]
    omega

theorem roundsTo_nearestWhole (value : Int) : RoundsTo value (nearestWhole value) where
  floating := by
    rw [natAbs_nearestWhole]
    exact isFloatingSize_nearestSize _
  nearest := by
    intro other floating
    have nearest := nearestSize_nearest value.natAbs floating
    have nearestZero := nearestSize_nearest value.natAbs (isFloatingSize_of_lt (powerOfTwo_pos 53))
    unfold nearestWhole
    split <;> omega
  even := by
    intro other floating different tie
    have nearestZero := nearestSize_nearest value.natAbs (isFloatingSize_of_lt (powerOfTwo_pos 53))
    -- A number of the other sign is further off than zero.
    have sameSign : other.natAbs ≠ nearestSize value.natAbs ∧
        ((value.natAbs : Int) - other.natAbs).natAbs =
          ((value.natAbs : Int) - nearestSize value.natAbs).natAbs ∧
        (2 * (other - nearestWhole value)).natAbs =
          2 * ((other.natAbs : Int) - nearestSize value.natAbs).natAbs := by
      by_cases negative : value < 0
      · rw [nearestWhole, if_pos negative] at different tie ⊢
        omega
      · rw [nearestWhole, if_neg negative] at different tie ⊢
        omega
    obtain ⟨differentSize, tieSize, gap⟩ := sameSign
    rw [← Int.natAbs_dvd_natAbs, natAbs_nearestWhole, gap]
    exact nearestSize_even floating differentSize tieSize

/-- Only one number is asked for. Two of them would both be even multiples of their distance. -/
theorem RoundsTo.eq {rounded other : Int} (rounds : RoundsTo value rounded)
    (rounds' : RoundsTo value other) : other = rounded := by
  by_cases same : other = rounded
  · exact same
  have tie : (value - other).natAbs = (value - rounded).natAbs :=
    Nat.le_antisymm (rounds'.nearest rounded rounds.floating)
      (rounds.nearest other rounds'.floating)
  have first : 2 * (other - rounded) ∣ rounded := rounds.even other rounds'.floating same tie
  have second : 2 * (rounded - other) ∣ other :=
    rounds'.even rounded rounds.floating (Ne.symm same) tie.symm
  have opposite : 2 * (rounded - other) = -(2 * (other - rounded)) := by omega
  rw [opposite, Int.neg_dvd] at second
  have distance := Int.natAbs_dvd_natAbs.mpr (Int.dvd_sub second first)
  have atMost := Nat.le_of_dvd (by omega) distance
  omega

theorem roundsTo_iff {rounded : Int} : RoundsTo value rounded ↔ rounded = nearestWhole value := by
  constructor
  · exact (roundsTo_nearestWhole value).eq
  · rintro rfl
    exact roundsTo_nearestWhole value

end Wholes

end Parlance.Number
