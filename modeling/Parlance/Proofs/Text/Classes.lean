import Parlance.Pattern.Opening
import Parlance.Pattern.Reader

namespace Parlance.Text

open Parlance.Pattern

/-! # Classes of characters apart from each other

A name ends before a blank and before every mark of the grammar, because the classes have no
character in common with them. The blanks are few enough to be checked one by one.
-/

def codesOf (ranges : List (Nat × Nat)) : List Nat :=
  ranges.flatMap fun range => List.range' range.1 (range.2 + 1 - range.1)

theorem mem_codesOf {ranges : List (Nat × Nat)} {c : Char} (inside : inRanges ranges c = true) :
    c.toNat ∈ codesOf ranges := by
  induction ranges with
  | nil => simp [inRanges] at inside
  | cons range rest ih =>
      simp only [inRanges] at inside
      simp only [codesOf, List.flatMap_cons, List.mem_append] at ih ⊢
      split at inside
      · contradiction
      split at inside
      · left
        simp
        omega
      · exact Or.inr (ih inside)

/-- What no blank has when they are checked one by one, no blank has. -/
theorem not_of_isBlank {isMember : Char → Bool}
    (checked : ∀ code ∈ codesOf blankRanges, isMember (Char.ofNat code) = false)
    {c : Char} (blank : isBlank c = true) : isMember c = false := by
  have apart := checked c.toNat (mem_codesOf blank)
  rwa [Char.ofNat_toNat] at apart

theorem not_isAlphanumeric_of_isBlank {c : Char} (blank : isBlank c = true) :
    isAlphanumeric c = false :=
  not_of_isBlank (by decide +kernel) blank

theorem not_isWordChar_of_isBlank {c : Char} (blank : isBlank c = true) :
    isWordChar c = false :=
  not_of_isBlank (by decide +kernel) blank

theorem isAlphanumeric_of_isAlpha {c : Char} (letter : c.isAlpha = true) :
    isAlphanumeric c = true := by
  have code : (decide (65 ≤ c.val ∧ c.val ≤ 90) ||
      decide (97 ≤ c.val) && decide (c.val ≤ 122)) = true := letter
  simp only [Bool.or_eq_true, Bool.and_eq_true, decide_eq_true_eq,
    UInt32.le_iff_toNat_le] at code
  have found : isAlphabetic c = true := by
    apply (inRanges_iff alphabeticRanges_increasing c).mpr
    rcases code with upper | lower
    · exact ⟨(0x41, 0x5a), List.mem_cons_self, upper⟩
    · exact ⟨(0x61, 0x7a), List.mem_cons_of_mem _ List.mem_cons_self, lower⟩
  simp only [isAlphanumeric, found, Bool.true_or]

/-- A class of characters and some marks has no blank if the characters and the marks have none. -/
theorem not_isMember_of_isBlank {isMember : Char → Bool} {marks : List Char} {c : Char}
    (without : isMember c = false) (apart : marks.any isBlank = false)
    (blank : isBlank c = true) : (isMember c || decide (c ∈ marks)) = false := by
  have unmarked : c ∉ marks := by
    intro member
    exact List.any_eq_false.mp apart c member blank
  simp only [without, unmarked, decide_false, Bool.or_self]

theorem not_isNameChar_of_isBlank {c : Char} (blank : isBlank c = true) :
    isNameChar c = false := by
  have apart : (isAlphanumeric c || decide (c ∈ ['_'])) = false :=
    not_isMember_of_isBlank (not_isAlphanumeric_of_isBlank blank) (by decide) blank
  simpa [isNameChar] using apart

theorem not_isKeyChar_of_isBlank {c : Char} (blank : isBlank c = true) : isKeyChar c = false :=
  not_isMember_of_isBlank (not_isAlphanumeric_of_isBlank blank) (by decide) blank

theorem not_isTagChar_of_isBlank {c : Char} (blank : isBlank c = true) : isTagChar c = false :=
  not_isMember_of_isBlank (not_isAlphanumeric_of_isBlank blank) (by decide) blank

theorem not_isOpeningTagChar_of_isBlank {c : Char} (blank : isBlank c = true) :
    isOpeningTagChar c = false :=
  not_isMember_of_isBlank (not_isWordChar_of_isBlank blank) (by decide) blank

theorem isTagChar_of_isAlpha {c : Char} (letter : c.isAlpha = true) : isTagChar c = true := by
  simp only [isTagChar, isAlphanumeric_of_isAlpha letter, Bool.true_or]

section Ascii

/-- All characters of the text are ASCII characters. -/
def IsAscii (text : List Char) : Prop :=
  ∀ c ∈ text, c.toNat < 128

instance (text : List Char) : Decidable (IsAscii text) :=
  List.decidableBAll (fun c : Char => c.toNat < 128) text

theorem IsAscii.of_suffix {text more : List Char} (ascii : IsAscii more) (inside : text <:+ more) :
    IsAscii text :=
  fun c member => ascii c (inside.subset member)

theorem asciiCodes_wordChar :
    ∀ code < 128, isAlphanumeric (Char.ofNat code) = true → isWordChar (Char.ofNat code) = true := by
  decide +kernel

/-- The alphanumeric characters that words lack are not ASCII. -/
theorem isWordChar_of_isAlphanumeric {c : Char} (ascii : c.toNat < 128)
    (member : isAlphanumeric c = true) : isWordChar c = true := by
  have checked := asciiCodes_wordChar c.toNat ascii
  rw [Char.ofNat_toNat] at checked
  exact checked member

theorem isWordChar_of_isNameChar {c : Char} (ascii : c.toNat < 128)
    (member : isNameChar c = true) : isWordChar c = true := by
  rw [isNameChar, Bool.or_eq_true] at member
  rcases member with alphanumeric | underscore
  · exact isWordChar_of_isAlphanumeric ascii alphanumeric
  · rw [beq_iff_eq.mp underscore]
    decide +kernel

theorem isOpeningTagChar_of_isTagChar {c : Char} (ascii : c.toNat < 128)
    (member : isTagChar c = true) : isOpeningTagChar c = true := by
  rw [isTagChar, Bool.or_eq_true, decide_eq_true_eq] at member
  rcases member with alphanumeric | mark
  · simp only [isOpeningTagChar, isWordChar_of_isAlphanumeric ascii alphanumeric, Bool.true_or]
  · simp only [List.mem_cons, List.not_mem_nil, or_false] at mark
    rcases mark with rfl | rfl | rfl
    · decide +kernel
    · decide +kernel
    · decide +kernel

end Ascii

end Parlance.Text
