namespace Parlance.Text

/-! # Tables of character ranges

A property of characters is kept as a list of inclusive ranges of code points in
increasing order, so a search stops at the first range above the character.
-/

def inRanges : List (Nat × Nat) → Char → Bool
  | [], _ => false
  | (low, high) :: rest, c =>
    if c.toNat < low then false
    else if c.toNat ≤ high then true
    else inRanges rest c

/-- The ranges begin at `bound` or above it, are in order, and none is empty. -/
def RangesFrom (bound : Nat) : List (Nat × Nat) → Prop
  | [] => True
  | (low, high) :: rest => bound ≤ low ∧ low ≤ high ∧ RangesFrom (high + 1) rest

instance decidableRangesFrom : (bound : Nat) → (ranges : List (Nat × Nat)) →
    Decidable (RangesFrom bound ranges)
  | _, [] => isTrue trivial
  | bound, (low, high) :: rest =>
    have := decidableRangesFrom (high + 1) rest
    inferInstanceAs (Decidable (bound ≤ low ∧ low ≤ high ∧ RangesFrom (high + 1) rest))

theorem RangesFrom.le_of_mem {bound : Nat} {ranges : List (Nat × Nat)}
    (increasing : RangesFrom bound ranges) {range : Nat × Nat} (member : range ∈ ranges) :
    bound ≤ range.1 := by
  induction ranges generalizing bound with
  | nil => cases member
  | cons head rest ih =>
      obtain ⟨low, high⟩ := head
      obtain ⟨above, nonempty, tail⟩ := increasing
      rcases List.mem_cons.mp member with rfl | later
      · exact above
      · have := ih tail later
        omega

/-- In a table in increasing order the search misses no range. -/
theorem inRanges_iff {bound : Nat} {ranges : List (Nat × Nat)}
    (increasing : RangesFrom bound ranges) (c : Char) :
    inRanges ranges c = true ↔ ∃ range ∈ ranges, range.1 ≤ c.toNat ∧ c.toNat ≤ range.2 := by
  induction ranges generalizing bound with
  | nil => simp [inRanges]
  | cons head rest ih =>
      obtain ⟨low, high⟩ := head
      obtain ⟨_, nonempty, tail⟩ := increasing
      simp only [inRanges, List.mem_cons, exists_eq_or_imp]
      by_cases below : c.toNat < low
      · rw [if_pos below]
        simp only [Bool.false_eq_true, false_iff, not_or, not_exists, not_and]
        refine ⟨by omega, ?_⟩
        intro range member lower
        have := tail.le_of_mem member
        omega
      · rw [if_neg below]
        by_cases inside : c.toNat ≤ high
        · rw [if_pos inside]
          simp only [true_iff]
          exact Or.inl ⟨by omega, inside⟩
        · rw [if_neg inside, ih tail]
          constructor
          · exact Or.inr
          · rintro (⟨_, upper⟩ | found)
            · exact absurd upper inside
            · exact found

end Parlance.Text
