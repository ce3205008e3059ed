namespace Parlance.Number

/-! # Powers of two and of ten -/

def powerOfTwo (exponent : Nat) : Nat :=
  Nat.pow 2 exponent

def powerOfTen (exponent : Nat) : Nat :=
  Nat.pow 10 exponent

theorem powerOfTwo_pos (exponent : Nat) : 0 < powerOfTwo exponent :=
  Nat.pow_pos (by decide)

theorem powerOfTwo_add (first second : Nat) :
    powerOfTwo (first + second) = powerOfTwo first * powerOfTwo second :=
  Nat.pow_add 2 first second

theorem powerOfTwo_le {first second : Nat} (order : first ≤ second) :
    powerOfTwo first ≤ powerOfTwo second :=
  Nat.pow_le_pow_right (by decide) order

theorem powerOfTwo_log2_le {number : Nat} (nonzero : number ≠ 0) :
    powerOfTwo number.log2 ≤ number :=
  Nat.log2_self_le nonzero

theorem lt_powerOfTwo_log2 (number : Nat) : number < powerOfTwo (number.log2 + 1) :=
  Nat.lt_log2_self

theorem log2_lt_of_lt {number exponent : Nat} (nonzero : number ≠ 0)
    (small : number < powerOfTwo exponent) : number.log2 < exponent :=
  (Nat.log2_lt nonzero).mpr small

theorem le_log2_of_le {number exponent : Nat} (nonzero : number ≠ 0)
    (large : powerOfTwo exponent ≤ number) : exponent ≤ number.log2 :=
  (Nat.le_log2 nonzero).mpr large

end Parlance.Number
