import Parlance.Format.Builtin
import Parlance.Proofs.Number.Nearest
import Parlance.Proofs.Number.Spelled

namespace Parlance

open Parlance.Number

/-! # Whole numbers as they are written

A whole number is written by its digits, except in the style of whole numbers: there it becomes a
floating number first. It keeps its digits only if it is a floating number and is not the least whole
number, which is written as a floating number.
-/

/-- What is written for a whole number after it has been a floating number. -/
def roundedText (rounded : Int) : String :=
  if rounded.natAbs < integerLimit then toString rounded
  else if rounded < 0 then "-9223372036854776000" else "9223372036854776000"

section Written

variable {value other : Int}

theorem inRange_of_small (small : value.natAbs < integerLimit) : InRange value := by
  unfold InRange leastInteger greatestInteger
  omega

theorem toString_inj_of_inRange (inRange : InRange value) (inRange' : InRange other)
    (same : toString value = toString other) : value = other := by
  have reads := (numeralFor_toString value).readInteger? inRange
  rw [same, (numeralFor_toString other).readInteger? inRange'] at reads
  exact (Option.some.inj reads).symm

/-- The two texts of great numbers are out of range, so they are those of no whole number. -/
theorem roundedText_of_large (large : integerLimit ≤ value.natAbs) (inRange : InRange other) :
    roundedText value ≠ toString other := by
  intro same
  have reads := (numeralFor_toString other).readInteger? inRange
  have refused : readInteger? (roundedText value).toList = none := by
    rw [roundedText, if_neg (Nat.not_lt.mpr large)]
    split <;> decide +kernel
  rw [← same, refused] at reads
  contradiction

theorem roundedText_eq_iff {rounded : Int} (inRange : InRange value) :
    roundedText rounded = toString value ↔ rounded = value ∧ value ≠ leastInteger := by
  by_cases small : rounded.natAbs < integerLimit
  · rw [roundedText, if_pos small]
    constructor
    · intro same
      have equal := toString_inj_of_inRange (inRange_of_small small) inRange same
      refine ⟨equal, ?_⟩
      rintro rfl
      rw [equal] at small
      exact absurd small (by decide)
    · rintro ⟨rfl, _⟩
      rfl
  · constructor
    · intro same
      exact absurd same (roundedText_of_large (Nat.not_lt.mp small) inRange)
    · rintro ⟨rfl, different⟩
      refine absurd ?_ small
      unfold InRange greatestInteger at inRange
      unfold leastInteger at inRange different
      omega

/-- The floating number that is out of range by one is written with zeros for its last digits. -/
theorem plain_integerLimit (negative : Bool) :
    (Floating.ofRatio binary64 negative integerLimit 1).plain =
      if negative then "-9223372036854776000" else "9223372036854776000" := by
  cases negative <;> decide +kernel

/-- Rounding a whole number as a floating number gives the nearest floating whole number. -/
theorem Numeric.display_round_ofInt (inRange : InRange value) :
    (Numeric.round (Floating.ofInt value)).display = roundedText (nearestWhole value) := by
  have limit : powerOfTwo 63 = integerLimit := by decide
  have bound : value.natAbs ≤ powerOfTwo 63 := by
    unfold InRange leastInteger greatestInteger at inRange
    omega
  have atMost : nearestSize value.natAbs ≤ powerOfTwo 63 := nearestSize_le bound
  have whole := Floating.ofRatio_isWhole (decide (value < 0)) bound
  -- The number is a floating one after the first rounding, so the second one changes nothing.
  have rounded := Floating.ofRatio_isWhole (decide (value < 0)) atMost
  rw [nearestSize_of_floating (isFloatingSize_nearestSize _)] at rounded
  simp only [Numeric.round, Floating.ofInt, whole.round_eq, rounded.integral?_eq]
  rw [roundedText, natAbs_nearestWhole]
  by_cases small : nearestSize value.natAbs < integerLimit
  · simp only [if_pos small, Numeric.display, nearestWhole, decide_eq_true_eq]
  · have least : nearestSize value.natAbs = integerLimit := by omega
    have sign : nearestWhole value < 0 ↔ value < 0 := by
      have positive : 0 < integerLimit := by decide
      unfold nearestWhole
      split <;> omega
    simp only [least, Nat.lt_irrefl, if_false, Numeric.display, plain_integerLimit,
      decide_eq_true_eq, sign]

end Written

namespace Format

/-- A whole number is written by its digits without a style. In the style of whole numbers the
nearest floating number is written, so the digits stay just if the number is a floating one. Of
these the least whole number alone does not come back from its floating form. -/
theorem integer_style_exact_iff (context : Context) (name : String) {argument : String}
    {arguments : Arguments} {number : Int}
    (read : numberOf arguments argument = .ok (.integer number)) (inRange : InRange number) :
    let digits : Except Error Formatted := .ok (.text (toString number))
    let whole := Formatter.number.format context ⟨argument, name, .styled (some "integer")⟩
      arguments
    (∀ shape, Formatter.count.format context ⟨argument, name, shape⟩ arguments = digits) ∧
    Formatter.number.format context ⟨argument, name, .styled none⟩ arguments = digits ∧
    (whole = digits ↔ IsFloatingSize number.natAbs ∧ number ≠ leastInteger) ∧
    ∃ rounded, (∀ other, RoundsTo number other ↔ other = rounded) ∧
      whole = .ok (.text (roundedText rounded)) := by
  intro digits whole
  have written : whole = .ok (.text (roundedText (nearestWhole number))) := by
    simp only [whole, Formatter.number, Formatter.ofText, numberText, read, Directive.style?,
      if_true, Numeric.toFloating, Numeric.display_round_ofInt inRange]
    rfl
  refine ⟨?_, ?_, ?_, nearestWhole number, fun other => roundsTo_iff, written⟩
  · intro shape
    simp only [Formatter.count, Formatter.ofText, countText, read]
    rfl
  · simp only [Formatter.number, Formatter.ofText, numberText, read]
    rfl
  · rw [written, ← nearestWhole_eq_iff, ← roundedText_eq_iff inRange, Except.ok.injEq,
      Formatted.text.injEq]

/-- A great number that is a multiple of the distance of floating numbers keeps its digits. -/
theorem integer_style_keeps_great_even :
    let arguments : Arguments := [("n", .text " +9007199254740994 ")]
    numberOf arguments "n" = .ok (.integer 9007199254740994) ∧ InRange 9007199254740994 ∧
    IsFloatingSize 9007199254740994 ∧
    Formatter.number.format ⟨"en", none, Plural.knownCategories⟩
      ⟨"n", "number", .styled (some "integer")⟩ arguments =
        .ok (.text (toString (9007199254740994 : Int))) := by
  intro arguments
  have read : numberOf arguments "n" = .ok (.integer 9007199254740994) := by decide +kernel
  have inRange : InRange 9007199254740994 := by decide
  have floating : IsFloatingSize 9007199254740994 := ⟨4503599627370497, 1, by decide, by decide⟩
  obtain ⟨_, _, exact, _⟩ :=
    integer_style_exact_iff ⟨"en", none, Plural.knownCategories⟩ "number" read inRange
  exact ⟨read, inRange, floating, exact.mpr ⟨floating, by decide⟩⟩

/-- The number next to it is halfway between two floating numbers, so its last digit changes. The
least whole number is a floating number and changes even so. -/
theorem integer_style_changes_digits :
    let written (style : Option String) (number : Int) :=
      Formatter.number.format ⟨"en", none, Plural.knownCategories⟩
        ⟨"n", "number", .styled style⟩ [("n", .integer number)]
    InRange 9007199254740993 ∧
    written none 9007199254740993 = .ok (.text "9007199254740993") ∧
    written (some "integer") 9007199254740993 = .ok (.text "9007199254740992") ∧
    InRange leastInteger ∧
    written none leastInteger = .ok (.text "-9223372036854775808") ∧
    written (some "integer") leastInteger = .ok (.text "-9223372036854776000") := by
  decide +kernel

end Format

end Parlance
