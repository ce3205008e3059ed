import Parlance.Format.Suggestion

namespace Parlance.Format

open Parlance.Text

/-! # The closest keys are suggested

Candidates within the limit are sorted by distance and name, and the first three of them are
suggested. So whatever is left out comes behind all that is suggested, and since equal candidates
are the same text, the order in which the candidates come makes no difference.
-/

/-- The first candidate is closer to the key, or as close and before the second by name. -/
def IsCloser (distance : String → String → Nat) (key first second : String) : Prop :=
  distance key first < distance key second ∨
    distance key first = distance key second ∧ isBefore first second = true

/-- The candidate is close enough to be suggested. -/
def isWithin (distance : String → String → Nat) (key candidate : String) : Bool :=
  distance key candidate ≤ distanceLimit key

section Order

variable {first second third : Nat × String}

theorem isSuggestedBefore_iff :
    isSuggestedBefore first second = true ↔ first.1 < second.1 ∨
      first.1 = second.1 ∧ (first.2 = second.2 ∨ isBefore first.2 second.2 = true) := by
  simp only [isSuggestedBefore, Bool.or_eq_true, Bool.and_eq_true, decide_eq_true_eq, beq_iff_eq,
    isAtMost_iff]

theorem isSuggestedBefore_trans (before : isSuggestedBefore first second = true)
    (later : isSuggestedBefore second third = true) : isSuggestedBefore first third = true := by
  rw [isSuggestedBefore_iff] at before later ⊢
  rcases before with less | ⟨same, before⟩
  · left
    rcases later with more | ⟨next, _⟩
    · exact Nat.lt_trans less more
    · exact next ▸ less
  · rcases later with more | ⟨next, later⟩
    · exact Or.inl (same ▸ more)
    · refine Or.inr ⟨same.trans next, ?_⟩
      rcases before with equal | before
      · exact equal ▸ later
      · rcases later with equal | later
        · exact Or.inr (equal ▸ before)
        · exact Or.inr (isBefore_trans before later)

theorem isSuggestedBefore_total (first second : Nat × String) :
    (isSuggestedBefore first second || isSuggestedBefore second first) = true := by
  rw [Bool.or_eq_true, isSuggestedBefore_iff, isSuggestedBefore_iff]
  rcases Nat.lt_trichotomy first.1 second.1 with less | same | more
  · exact Or.inl (Or.inl less)
  · cases before : isBefore first.2 second.2 with
    | true => exact Or.inl (Or.inr ⟨same, Or.inr rfl⟩)
    | false =>
        right
        refine Or.inr ⟨same.symm, ?_⟩
        cases after : isBefore second.2 first.2 with
        | true => exact Or.inr rfl
        | false => exact Or.inl (isBefore_connected after before)
  · exact Or.inr (Or.inl more)

theorem isSuggestedBefore_antisymm (before : isSuggestedBefore first second = true)
    (after : isSuggestedBefore second first = true) : first = second := by
  rw [isSuggestedBefore_iff] at before after
  have same : first.1 = second.1 := by omega
  rcases before with less | ⟨_, equal | before⟩
  · omega
  · exact Prod.ext same equal
  · rcases after with less | ⟨_, equal | after⟩
    · omega
    · exact Prod.ext same equal.symm
    · rw [isBefore_asymm before] at after
      contradiction

end Order

section Closest

variable {distance : String → String → Nat} {key : String}

theorem IsCloser.asymm {first second : String} (closer : IsCloser distance key first second) :
    ¬ IsCloser distance key second first := by
  rintro (less | ⟨same, after⟩)
  · rcases closer with more | ⟨same, _⟩ <;> omega
  · rcases closer with more | ⟨_, before⟩
    · omega
    · rw [isBefore_asymm before] at after
      contradiction

/-- All candidates within the limit, in the order of suggestions. -/
def closestFirst (distance : String → String → Nat) (key : String) (available : List String) :
    List String :=
  (rankedCandidates distance key available).map Prod.snd

theorem rankedCandidates_perm (distance : String → String → Nat) (key : String)
    (available : List String) :
    (rankedCandidates distance key available).Perm
      ((available.filter (isWithin distance key)).map fun candidate =>
        (distance key candidate, candidate)) := by
  refine (List.mergeSort_perm _ _).trans ?_
  rw [List.filter_map]
  rfl

theorem rankedCandidates_pairwise (available : List String) :
    (rankedCandidates distance key available).Pairwise fun first second =>
      isSuggestedBefore first second = true := by
  apply List.pairwise_mergeSort
  · exact fun first second third => isSuggestedBefore_trans
  · exact isSuggestedBefore_total

theorem rank_of_mem_rankedCandidates {available : List String} {ranked : Nat × String}
    (member : ranked ∈ rankedCandidates distance key available) :
    ranked.1 = distance key ranked.2 := by
  have listed := (rankedCandidates_perm distance key available).mem_iff.mp member
  obtain ⟨candidate, _, rfl⟩ := List.mem_map.mp listed
  rfl

theorem closestFirst_perm (available : List String) :
    (closestFirst distance key available).Perm (available.filter (isWithin distance key)) := by
  have perm := (rankedCandidates_perm distance key available).map Prod.snd
  rw [List.map_map] at perm
  exact perm.trans (List.Perm.of_eq (List.map_id _))

theorem closestFirst_pairwise (available : List String) :
    (closestFirst distance key available).Pairwise fun first second =>
      first = second ∨ IsCloser distance key first second := by
  refine List.pairwise_map.mpr ((rankedCandidates_pairwise available).imp_of_mem ?_)
  intro first second member member' before
  have rank := rank_of_mem_rankedCandidates member
  have rank' := rank_of_mem_rankedCandidates member'
  rcases isSuggestedBefore_iff.mp before with less | ⟨same, equal | before⟩
  · exact Or.inr (Or.inl (rank ▸ rank' ▸ less))
  · exact Or.inl equal
  · exact Or.inr (Or.inr ⟨rank ▸ rank' ▸ same, before⟩)

theorem closestFirst_congr {available other : List String} (same : other.Perm available) :
    closestFirst distance key other = closestFirst distance key available := by
  have within : (other.filter (isWithin distance key)).Perm
      (available.filter (isWithin distance key)) := same.filter _
  have perm := ((rankedCandidates_perm distance key other).trans (within.map _)).trans
    (rankedCandidates_perm distance key available).symm
  have ranked := perm.eq_of_pairwise (fun _ _ _ _ => isSuggestedBefore_antisymm)
    (rankedCandidates_pairwise other) (rankedCandidates_pairwise available)
  rw [closestFirst, ranked, closestFirst]

theorem suggestionsBy_eq (available : List String) :
    suggestionsBy distance key available = (closestFirst distance key available).take 3 := by
  rw [closestFirst, ← List.map_take, suggestionsBy]

/-- Of the candidates within the limit the three closest are suggested, the closest first and
equally close ones by name. What is left out is no closer than anything suggested, and the order of
the candidates does not matter. -/
theorem suggestions_are_closest (distance : String → String → Nat) (key : String)
    (available : List String) :
    let within := available.filter fun candidate =>
      distance key candidate ≤ if 3 < key.length then 2 else 1
    let suggested := suggestionsBy distance key available
    suggested.length = min 3 within.length ∧
      (∃ leftOut, (suggested ++ leftOut).Perm within ∧
        ∀ candidate ∈ leftOut, ∀ kept ∈ suggested, ¬ IsCloser distance key candidate kept) ∧
      (suggested.Pairwise fun first second =>
        first = second ∨ IsCloser distance key first second) ∧
      ∀ other, other.Perm available → suggestionsBy distance key other = suggested := by
  intro within suggested
  let sorted := closestFirst distance key available
  have taken : suggested = sorted.take 3 := suggestionsBy_eq available
  have perm : sorted.Perm within := closestFirst_perm available
  have ordered : (sorted.take 3 ++ sorted.drop 3).Pairwise fun first second =>
      first = second ∨ IsCloser distance key first second := by
    rw [List.take_append_drop]
    exact closestFirst_pairwise available
  obtain ⟨front, _, across⟩ := List.pairwise_append.mp ordered
  rw [taken]
  refine ⟨?_, ⟨sorted.drop 3, ?_, ?_⟩, front, ?_⟩
  · rw [List.length_take, perm.length_eq]
  · rw [List.take_append_drop]
    exact perm
  · intro candidate left kept member closer
    rcases across kept member candidate left with rfl | before
    · exact closer.asymm closer
    · exact before.asymm closer
  · intro other same
    rw [suggestionsBy_eq, closestFirst_congr same]

/-- Four keys are within one edit, one of them twice over, so one key is left out. -/
theorem suggestions_of_close_keys :
    let available := ["few", "now", "two", "new", "one", "no", "now"]
    let other := ["now", "new", "few", "one", "two", "now", "no"]
    other.Perm available ∧ (suggestions "now" available).length = 3 ∧
      suggestions "now" other = suggestions "now" available := by
  intro available other
  have same : other.Perm available := by decide +kernel
  obtain ⟨length, _, _, permuted⟩ := suggestions_are_closest editDistance "now" available
  refine ⟨same, ?_, permuted other same⟩
  rw [suggestions, length]
  decide +kernel

end Closest

end Parlance.Format
