import Parlance.Format.Builtin
import Parlance.Proofs.Number.Rounding
import Parlance.Proofs.Number.Spelled

namespace Parlance.Format

open Parlance.Number

/-! # Branches that spell a number

A key with an equals sign in front stands for the number behind it, and numbers are compared as
floating numbers. Whole numbers are told apart in this way as long as they are below two to the
precision of floating numbers.
-/

/-- The key that spells a whole number. -/
def exactKey (value : Int) : String :=
  "=" ++ toString value

/-- All keys with an equals sign in front spell whole numbers. -/
def SpellsWholes (branches : List (String × List Node)) : Prop :=
  ∀ key ∈ Keyed.keys branches, key.toList.head? = some '=' →
    ∃ value, InRange value ∧ key = exactKey value

/-- Some key spells another whole number that becomes the same floating number. -/
def Blurred (branches : List (String × List Node)) (number : Int) : Prop :=
  ∃ value, InRange value ∧ exactKey value ∈ Keyed.keys branches ∧ value ≠ number ∧
    (Floating.ofInt value).equal (Floating.ofInt number) = true

section Keys

variable {value number : Int} {key : String} {branches : List (String × List Node)}

theorem isExactFor_exactKey (inRange : InRange value) (number : Floating) :
    isExactFor number (exactKey value) = (Floating.ofInt value).equal number := by
  have spelled : (exactKey value).toList = '=' :: (toString value).toList := by
    rw [exactKey, String.toList_append]
    rfl
  simp only [isExactFor, exactNumber?, spelled, readFloating?_toString inRange, Option.any_some]

theorem isExactFor_of_head_ne (noSign : key.toList.head? ≠ some '=') (number : Floating) :
    isExactFor number key = false := by
  unfold isExactFor exactNumber?
  split
  · rename_i spelled
    exact absurd (congrArg List.head? spelled) noSign
  · rfl

theorem Blurred.large (blurred : Blurred branches number) : powerOfTwo 53 ≤ number.natAbs := by
  obtain ⟨value, _, _, different, equal⟩ := blurred
  exact Nat.not_lt.mp fun small => different ((Floating.equal_ofInt_iff small).mp equal)

/-- Among keys that spell whole numbers only that of the number itself counts. -/
theorem SpellsWholes.isExactFor_iff (spelled : SpellsWholes branches) (inRange : InRange number)
    (clear : ¬ Blurred branches number) (member : key ∈ Keyed.keys branches) :
    isExactFor (Floating.ofInt number) key = true ↔ key = exactKey number := by
  constructor
  · intro exact
    by_cases sign : key.toList.head? = some '='
    · obtain ⟨value, valueInRange, rfl⟩ := spelled key member sign
      rw [isExactFor_exactKey valueInRange] at exact
      by_cases same : value = number
      · rw [same]
      · exact absurd ⟨value, valueInRange, member, same, exact⟩ clear
    · rw [isExactFor_of_head_ne sign] at exact
      contradiction
  · rintro rfl
    rw [isExactFor_exactKey inRange]
    exact Floating.equal_ofInt_self number

theorem exactBranch?_eq_find? {number : Floating}
    (only : ∀ name ∈ Keyed.keys branches, isExactFor number name = true ↔ name = key) :
    exactBranch? branches number = Keyed.find? branches key := by
  induction branches with
  | nil => rfl
  | cons entry rest ih =>
      obtain ⟨name, nodes⟩ := entry
      have here := only name List.mem_cons_self
      have later := ih fun name member => only name (List.mem_cons_of_mem _ member)
      by_cases same : name = key
      · have exact : isExactFor number name = true := here.mpr same
        simp only [exactBranch?, Keyed.find?, List.find?_cons, exact, if_pos same]
        rfl
      · have inexact : isExactFor number name = false := Bool.eq_false_iff.mpr (mt here.mp same)
        simp only [exactBranch?, Keyed.find?, List.find?_cons, inexact, if_neg same] at later ⊢
        exact later

end Keys

/-- A plural takes the branch that spells its whole number, and goes by the category without such
a branch. It fails to only for a great number that is blurred by a branch of another number. -/
theorem plural_exact_or_blurred (kind : Plural.Kind) (context : Context) {argument : String}
    (name : String) {branches : List (String × List Node)} {arguments : Arguments} {number : Int}
    (read : numberOf arguments argument = .ok (.integer number)) (inRange : InRange number)
    (spelled : SpellsWholes branches) :
    let chosen := (Formatter.plural kind).format context ⟨argument, name, .branched branches⟩
      arguments
    (powerOfTwo 53 ≤ number.natAbs ∧ Blurred branches number) ∨
      ((∀ branch, Keyed.find? branches (exactKey number) = some branch →
        chosen = .ok (.nodes branch)) ∧
      (Keyed.find? branches (exactKey number) = none →
        chosen = (selectBranch argument branches (context.category kind number)).map .nodes)) := by
  intro chosen
  by_cases blurred : Blurred branches number
  · exact Or.inl ⟨blurred.large, blurred⟩
  right
  have exact : exactBranch? branches (Floating.ofInt number) =
      Keyed.find? branches (exactKey number) :=
    exactBranch?_eq_find? fun name member => spelled.isExactFor_iff inRange blurred member
  have choice : chosen = (pluralBranch kind context ⟨argument, name, .branched branches⟩ branches
      arguments).map .nodes := rfl
  constructor
  · intro branch found
    simp only [choice, pluralBranch, read, Numeric.toFloating, exact, found]
    rfl
  · intro missing
    simp only [choice, pluralBranch, read, Numeric.toFloating, exact, missing]
    rfl

/-- The text of two between blanks chooses the branch of two, not that of twenty. -/
theorem plural_takes_spelled_two :
    let branches : List (String × List Node) :=
      [("=2", [.text "pair"]), ("=20", [.text "score"]), ("other", [.text "many"])]
    numberOf [("n", .text " 2 ")] "n" = .ok (.integer 2) ∧ InRange 2 ∧ SpellsWholes branches ∧
    (Formatter.plural .cardinal).format ⟨"en", none, fun _ _ _ => otherKey⟩
      ⟨"n", "plural", .branched branches⟩ [("n", .text " 2 ")] = .ok (.nodes [.text "pair"]) := by
  intro branches
  have read : numberOf [("n", .text " 2 ")] "n" = .ok (.integer 2) := by decide +kernel
  have inRange : InRange 2 := by decide
  have spelled : SpellsWholes branches := by
    intro key member sign
    obtain rfl | rfl | rfl : key = "=2" ∨ key = "=20" ∨ key = "other" := by
      simpa [branches, Keyed.keys] using member
    · exact ⟨2, by decide, by decide +kernel⟩
    · exact ⟨20, by decide, by decide +kernel⟩
    · exact absurd sign (by decide +kernel)
  refine ⟨read, inRange, spelled, ?_⟩
  rcases plural_exact_or_blurred .cardinal ⟨"en", none, fun _ _ _ => otherKey⟩ "plural" read inRange
    spelled with ⟨large, _⟩ | ⟨taken, _⟩
  · exact absurd large (by decide)
  · exact taken _ (by decide +kernel)

/-- Two to the precision is given the branch of the whole number behind it. -/
theorem plural_takes_rounded_number :
    let branches : List (String × List Node) :=
      [("=9007199254740993", [.text "exact"]), ("other", [.text "other"])]
    let arguments : Arguments := [("n", .integer 9007199254740992)]
    SpellsWholes branches ∧ numberOf arguments "n" = .ok (.integer 9007199254740992) ∧
    Keyed.find? branches (exactKey 9007199254740992) = none ∧
    selectBranch "n" branches otherKey = .ok [.text "other"] ∧
    (Formatter.plural .cardinal).format ⟨"en", none, fun _ _ _ => otherKey⟩
      ⟨"n", "plural", .branched branches⟩ arguments = .ok (.nodes [.text "exact"]) := by
  intro branches arguments
  refine ⟨?_, by decide +kernel, by decide +kernel, by decide +kernel, by decide +kernel⟩
  intro key member sign
  obtain rfl | rfl : key = "=9007199254740993" ∨ key = "other" := by
    simpa [branches, Keyed.keys] using member
  · exact ⟨9007199254740993, by decide, by decide +kernel⟩
  · exact absurd sign (by decide +kernel)

end Parlance.Format
