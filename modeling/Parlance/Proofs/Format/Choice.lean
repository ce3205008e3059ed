import Parlance.Format.Builtin

namespace Parlance.Format

open Parlance.Number

/-! # How a plural chooses

A plural takes the first branch in key order whose key spells its number, without such a branch that
of the category of the number, and without that one the branch for all others. Branches with any
other keys do not matter for the choice.
-/

/-- The key is an equals sign and a numeral for the number. -/
def Spells (number : Floating) (key : String) : Prop :=
  ∃ numeral value, key.toList = '=' :: numeral ∧ readFloating? binary64 numeral = some value ∧
    value.equal number = true

/-- The number is spelled by the key and by no key before it. -/
def FirstSpells (number : Floating) (branches : List (String × List Node)) (key : String) : Prop :=
  Spells number key ∧ ∀ other ∈ Keyed.keys branches, Spells number other →
    other = key ∨ Text.isBefore key other = true

def Unspelled (number : Floating) (branches : List (String × List Node)) : Prop :=
  ∀ key ∈ Keyed.keys branches, ¬ Spells number key

/-- What a plural gives for a directive with branches in key order. -/
inductive PluralOutcome (kind : Plural.Kind) (context : Context) (argument : String)
    (branches : List (String × List Node)) (arguments : Arguments) :
    Except Error (List Node) → Prop
  | missing (absent : Keyed.find? arguments argument = none) :
      PluralOutcome kind context argument branches arguments (.error (.missingArgument argument))
  | wrong {value : Value} (present : Keyed.find? arguments argument = some value)
      (noNumber : value.numeric? = none) :
      PluralOutcome kind context argument branches arguments
        (.error (.wrongArgument argument .number value.typeName))
  | exact {value : Value} {number : Numeric} {key : String} {nodes : List Node}
      (present : Keyed.find? arguments argument = some value)
      (reads : value.numeric? = some number) (member : (key, nodes) ∈ branches)
      (first : FirstSpells number.toFloating branches key) :
      PluralOutcome kind context argument branches arguments (.ok nodes)
  | category {value : Value} {number : Numeric} {nodes : List Node}
      (present : Keyed.find? arguments argument = some value)
      (reads : value.numeric? = some number) (unspelled : Unspelled number.toFloating branches)
      (member : (pluralKey kind context number, nodes) ∈ branches) :
      PluralOutcome kind context argument branches arguments (.ok nodes)
  | other {value : Value} {number : Numeric} {nodes : List Node}
      (present : Keyed.find? arguments argument = some value)
      (reads : value.numeric? = some number) (unspelled : Unspelled number.toFloating branches)
      (uncategorized : pluralKey kind context number ∉ Keyed.keys branches)
      (member : (otherKey, nodes) ∈ branches) :
      PluralOutcome kind context argument branches arguments (.ok nodes)
  | none {value : Value} {number : Numeric}
      (present : Keyed.find? arguments argument = some value)
      (reads : value.numeric? = some number) (unspelled : Unspelled number.toFloating branches)
      (uncategorized : pluralKey kind context number ∉ Keyed.keys branches)
      (unmatched : otherKey ∉ Keyed.keys branches) :
      PluralOutcome kind context argument branches arguments
        (.error (.missingBranch argument (pluralKey kind context number) (Keyed.keys branches)
          (suggestions (pluralKey kind context number) (Keyed.keys branches))))

/-- A key that a plural does not look for, because it is neither a spelling of the number nor its
category nor the key for all others. -/
structure Irrelevant (kind : Plural.Kind) (context : Context) (number : Numeric) (key : String) :
    Prop where
  unspelled : ¬ Spells number.toFloating key
  uncategorized : key ≠ pluralKey kind context number
  unmatched : key ≠ otherKey

section Exact

variable {number : Floating} {key : String} {branches : List (String × List Node)}
  {nodes : List Node}

theorem isExactFor_iff : isExactFor number key = true ↔ Spells number key := by
  unfold isExactFor exactNumber?
  constructor
  · intro exact
    split at exact
    · rename_i numeral spelled
      obtain ⟨value, read, equal⟩ := (Option.any_eq_true _ _).mp exact
      exact ⟨numeral, value, spelled, read, equal⟩
    · contradiction
  · rintro ⟨numeral, value, spelled, read, equal⟩
    rw [spelled]
    simp only [read, Option.any_some, equal]

theorem exactBranch?_eq_some_iff (sorted : Keyed.Sorted branches) :
    exactBranch? branches number = some nodes ↔
      ∃ key, (key, nodes) ∈ branches ∧ FirstSpells number branches key := by
  simp only [exactBranch?, Option.map_eq_some_iff, Keyed.find?_least_iff sorted, isExactFor_iff]
  constructor
  · rintro ⟨⟨key, _⟩, ⟨member, spells, first⟩, rfl⟩
    refine ⟨key, member, spells, fun other listed otherSpells => ?_⟩
    obtain ⟨entry, inside, rfl⟩ := List.mem_map.mp listed
    exact (first entry inside otherSpells).imp_left (congrArg Prod.fst)
  · rintro ⟨key, member, spells, first⟩
    refine ⟨(key, nodes), ⟨member, spells, fun other inside otherSpells => ?_⟩, rfl⟩
    refine (first other.1 (List.mem_map_of_mem inside) otherSpells).imp_left fun same => ?_
    exact Keyed.eq_of_mem_of_key_eq sorted inside member same

theorem exactBranch?_eq_none_iff :
    exactBranch? branches number = none ↔ Unspelled number branches := by
  simp only [exactBranch?, Option.map_eq_none_iff, List.find?_eq_none, isExactFor_iff, Unspelled,
    Keyed.keys, List.forall_mem_map]

end Exact

section Outcomes

variable {kind : Plural.Kind} {context : Context} {directive : Directive}
  {branches : List (String × List Node)} {arguments : Arguments}

theorem numberOf_eq_ok {name : String} {value : Value} {number : Numeric}
    (present : Keyed.find? arguments name = some value) (reads : value.numeric? = some number) :
    numberOf arguments name = .ok number := by
  rw [numberOf, argumentOf, present]
  simp only [reads]

theorem pluralOutcome_of_pluralBranch (sorted : Keyed.Sorted branches) :
    PluralOutcome kind context directive.argument branches arguments
      (pluralBranch kind context directive branches arguments) := by
  cases present : Keyed.find? arguments directive.argument with
  | none =>
      simp only [pluralBranch, numberOf, argumentOf, present]
      exact .missing present
  | some value =>
      cases reads : value.numeric? with
      | none =>
          simp only [pluralBranch, numberOf, argumentOf, present, reads]
          exact .wrong present reads
      | some number =>
          simp only [pluralBranch, numberOf_eq_ok present reads]
          cases exact : exactBranch? branches number.toFloating with
          | some nodes =>
              obtain ⟨key, member, first⟩ := (exactBranch?_eq_some_iff sorted).mp exact
              exact .exact present reads member first
          | none =>
              have unspelled := exactBranch?_eq_none_iff.mp exact
              simp only [selectBranch]
              cases own : Keyed.find? branches (pluralKey kind context number) with
              | some nodes =>
                  exact .category present reads unspelled ((Keyed.find?_eq_some_iff sorted).mp own)
              | none =>
                  have uncategorized := Keyed.find?_eq_none_iff.mp own
                  cases other : Keyed.find? branches otherKey with
                  | some nodes =>
                      exact .other present reads unspelled uncategorized
                        ((Keyed.find?_eq_some_iff sorted).mp other)
                  | none =>
                      exact .none present reads unspelled uncategorized
                        (Keyed.find?_eq_none_iff.mp other)

theorem pluralBranch_of_pluralOutcome (sorted : Keyed.Sorted branches)
    {outcome : Except Error (List Node)}
    (gives : PluralOutcome kind context directive.argument branches arguments outcome) :
    pluralBranch kind context directive branches arguments = outcome := by
  cases gives with
  | missing absent => simp only [pluralBranch, numberOf, argumentOf, absent]
  | wrong present noNumber => simp only [pluralBranch, numberOf, argumentOf, present, noNumber]
  | exact present reads member first =>
      have exact := (exactBranch?_eq_some_iff sorted).mpr ⟨_, member, first⟩
      simp only [pluralBranch, numberOf_eq_ok present reads, exact]
  | category present reads unspelled member =>
      have exact := exactBranch?_eq_none_iff.mpr unspelled
      have own := (Keyed.find?_eq_some_iff sorted).mpr member
      simp only [pluralBranch, numberOf_eq_ok present reads, exact, selectBranch, own,
        Option.some_or]
  | other present reads unspelled uncategorized member =>
      have exact := exactBranch?_eq_none_iff.mpr unspelled
      have own := Keyed.find?_eq_none_iff.mpr uncategorized
      have other := (Keyed.find?_eq_some_iff sorted).mpr member
      simp only [pluralBranch, numberOf_eq_ok present reads, exact, selectBranch, own, other,
        Option.none_or]
  | none present reads unspelled uncategorized unmatched =>
      have exact := exactBranch?_eq_none_iff.mpr unspelled
      have own := Keyed.find?_eq_none_iff.mpr uncategorized
      have other := Keyed.find?_eq_none_iff.mpr unmatched
      simp only [pluralBranch, numberOf_eq_ok present reads, exact, selectBranch, own, other,
        Option.none_or]

theorem pluralBranch_eq_iff (sorted : Keyed.Sorted branches) (directive : Directive)
    (outcome : Except Error (List Node)) :
    pluralBranch kind context directive branches arguments = outcome ↔
      PluralOutcome kind context directive.argument branches arguments outcome := by
  constructor
  · rintro rfl
    exact pluralOutcome_of_pluralBranch sorted
  · exact pluralBranch_of_pluralOutcome sorted

end Outcomes

section Additions

variable {kind : Plural.Kind} {context : Context} {directive directive' : Directive}
  {branches added : List (String × List Node)} {arguments : Arguments} {number : Numeric}

theorem exactBranch?_insert {number : Floating} {key : String} (noSpelling : ¬ Spells number key)
    (branches : List (String × List Node)) (nodes : List Node) :
    exactBranch? (Keyed.insert branches key nodes) number = exactBranch? branches number := by
  have inexact : isExactFor number key = false :=
    Bool.eq_false_iff.mpr (mt isExactFor_iff.mp noSpelling)
  induction branches with
  | nil => simp [Keyed.insert, exactBranch?, inexact]
  | cons head rest ih =>
      obtain ⟨name, old⟩ := head
      simp only [exactBranch?, Keyed.insert] at ih ⊢
      by_cases same : key = name
      · subst name
        simp only [if_true, List.find?_cons, inexact]
      · rw [if_neg same]
        by_cases before : Text.isBefore key name = true
        · simp only [if_pos before, List.find?_cons, inexact]
        · rw [if_neg before, List.find?_cons, List.find?_cons]
          cases isExactFor number name with
          | true => rfl
          | false => exact ih

theorem exactBranch?_insertAll {number : Floating}
    (noSpelling : ∀ key ∈ Keyed.keys added, ¬ Spells number key) :
    exactBranch? (Keyed.insertAll branches added) number = exactBranch? branches number := by
  induction added generalizing branches with
  | nil => rfl
  | cons pair rest ih =>
      rw [← exactBranch?_insert (noSpelling pair.1 List.mem_cons_self) branches pair.2]
      exact ih fun key member => noSpelling key (List.mem_cons_of_mem _ member)

theorem selectBranch_insertAll {argument key : String} {nodes : List Node}
    (others : ∀ name ∈ Keyed.keys added, name ≠ key ∧ name ≠ otherKey) :
    selectBranch argument (Keyed.insertAll branches added) key = .ok nodes ↔
      selectBranch argument branches key = .ok nodes := by
  have own : Keyed.find? (Keyed.insertAll branches added) key = Keyed.find? branches key :=
    Keyed.find?_insertAll_of_ne fun name member => (others name member).1
  have other : Keyed.find? (Keyed.insertAll branches added) otherKey =
      Keyed.find? branches otherKey :=
    Keyed.find?_insertAll_of_ne fun name member => (others name member).2
  simp only [selectBranch, own, other]
  cases (Keyed.find? branches key).or (Keyed.find? branches otherKey) with
  | some branch => exact Iff.rfl
  | none => exact iff_of_false nofun nofun

theorem pluralBranch_insertAll {nodes : List Node}
    (irrelevant : ∀ key ∈ Keyed.keys added, ∀ number,
      numberOf arguments directive.argument = .ok number → Irrelevant kind context number key)
    (same : directive'.argument = directive.argument) :
    pluralBranch kind context directive' (Keyed.insertAll branches added) arguments = .ok nodes ↔
      pluralBranch kind context directive branches arguments = .ok nodes := by
  cases read : numberOf arguments directive.argument with
  | error error =>
      simp only [pluralBranch, same, read]
  | ok number =>
      have keys := fun key member => irrelevant key member number read
      have exact : exactBranch? (Keyed.insertAll branches added) number.toFloating =
          exactBranch? branches number.toFloating :=
        exactBranch?_insertAll fun key member => (keys key member).unspelled
      simp only [pluralBranch, same, read, exact]
      cases exactBranch? branches number.toFloating with
      | some branch => exact Iff.rfl
      | none =>
          exact selectBranch_insertAll fun key member =>
            ⟨(keys key member).uncategorized, (keys key member).unmatched⟩

end Additions

theorem map_nodes_inj {first second : Except Error (List Node)} :
    first.map Formatted.nodes = second.map Formatted.nodes ↔ first = second := by
  cases first <;> cases second <;> simp [Except.map]

end Parlance.Format
