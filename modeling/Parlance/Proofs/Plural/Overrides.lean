import Mathlib.Data.List.Forall2
import Mathlib.Data.List.Induction
import Parlance.Plural.Overrides
import Parlance.Proofs.Pattern.Runs

namespace Parlance.Plural

open Parlance.Locale Parlance.Pattern Parlance.Text

/-! # Which rule a table of overrides finds

A table is filled by additions one after the other. It finds the rule that was added last for the
code that is looked up, or else the one that was added last for its language. What counts of a code
is its key, so codes that are spelled in different ways stand for each other.
-/

/-- A rule as it is added to a table. -/
structure Addition where
  code : String
  kind : Kind
  rule : Int → String

namespace Addition

/-- What an addition has in common with the look-ups that it is meant for. -/
def slot (addition : Addition) : List Char × Kind :=
  (Overrides.key addition.code, addition.kind)

end Addition

namespace Overrides

def add (overrides : Overrides) (addition : Addition) : Overrides :=
  overrides.insert addition.code addition.kind addition.rule

/-- An empty table after additions one by one. -/
def ofAdditions (fallback : Categories) (additions : List Addition) : Overrides :=
  additions.foldl add (empty fallback)

/-- The part of a key before its first hyphen. -/
def languageKey (code : String) : List Char :=
  (key code).takeWhile (· != '-')

end Overrides

/-- No rule was added for the slot. -/
def Free (slot : List Char × Kind) (additions : List Addition) : Prop :=
  ∀ addition ∈ additions, addition.slot ≠ slot

instance (slot : List Char × Kind) (additions : List Addition) :
    Decidable (Free slot additions) :=
  inferInstanceAs (Decidable (∀ addition ∈ additions, addition.slot ≠ slot))

/-- The rule was added for the slot, and no other one was added for it later. -/
def LastFor (slot : List Char × Kind) (additions : List Addition) (rule : Int → String) : Prop :=
  ∃ earlier addition later, additions = earlier ++ addition :: later ∧ addition.slot = slot ∧
    addition.rule = rule ∧ Free slot later

/-- The rule that additions give a code: the last one for the code itself, or without such a rule
the last one for its language. -/
inductive Finds (additions : List Addition) (code : String) (kind : Kind) : (Int → String) → Prop
  | own {rule : Int → String} (last : LastFor (Overrides.key code, kind) additions rule) :
      Finds additions code kind rule
  | language {rule : Int → String} (free : Free (Overrides.key code, kind) additions)
      (last : LastFor (Overrides.languageKey code, kind) additions rule) :
      Finds additions code kind rule

/-- The same additions in another order. Additions for one slot stay in their order. -/
inductive Reordered : List Addition → List Addition → Prop
  | same (additions : List Addition) : Reordered additions additions
  | swap (earlier : List Addition) {first second : Addition} (later : List Addition)
      (apart : first.slot ≠ second.slot) :
      Reordered (earlier ++ first :: second :: later) (earlier ++ second :: first :: later)
  | trans {first second third : List Addition} (before : Reordered first second)
      (after : Reordered second third) : Reordered first third

/-- Characters that codes do not tell apart: the two cases of a letter, and the two hyphens. -/
def Alike (first second : Char) : Prop :=
  first.toLower = second.toLower ∨ first ∈ ['-', '_'] ∧ second ∈ ['-', '_']

instance (first second : Char) : Decidable (Alike first second) :=
  inferInstanceAs (Decidable (_ ∨ _))

/-- Two spellings of a code, which differ in characters that are alike and in blanks around. -/
def Respelled (first second : String) : Prop :=
  ∃ before text after before' text' after', AllBlank before ∧ AllBlank after ∧ AllBlank before' ∧
    AllBlank after' ∧ List.Forall₂ Alike text text' ∧
    first.toList = before ++ (text ++ after) ∧ second.toList = before' ++ (text' ++ after')

section Additions

variable {fallback : Categories} {additions : List Addition} {slot : List Char × Kind}
  {rule : Int → String}

theorem free_append_singleton {addition : Addition} :
    Free slot (additions ++ [addition]) ↔ Free slot additions ∧ addition.slot ≠ slot := by
  simp only [Free, List.forall_mem_append, List.forall_mem_singleton]

theorem lastFor_append_singleton {addition : Addition} :
    LastFor slot (additions ++ [addition]) rule ↔
      addition.slot = slot ∧ addition.rule = rule ∨
        addition.slot ≠ slot ∧ LastFor slot additions rule := by
  constructor
  · rintro ⟨earlier, chosen, later, split, placed, rules, free⟩
    rcases List.eq_nil_or_concat' later with rfl | ⟨later, last, rfl⟩
    · obtain ⟨_, same⟩ := List.append_inj' split rfl
      cases same
      exact Or.inl ⟨placed, rules⟩
    · have moved :
          earlier ++ chosen :: (later ++ [last]) = (earlier ++ chosen :: later) ++ [last] := by
        simp only [List.append_assoc, List.cons_append]
      rw [moved] at split
      obtain ⟨rfl, same⟩ := List.append_inj' split rfl
      cases same
      obtain ⟨freeLater, elsewhere⟩ := free_append_singleton.mp free
      exact Or.inr ⟨elsewhere, earlier, chosen, later, rfl, placed, rules, freeLater⟩
  · rintro (⟨placed, rules⟩ | ⟨elsewhere, earlier, chosen, later, rfl, placed, rules, free⟩)
    · exact ⟨additions, addition, [], rfl, placed, rules, fun _ member => nomatch member⟩
    · exact ⟨earlier, chosen, later ++ [addition], by simp, placed, rules,
        free_append_singleton.mpr ⟨free, elsewhere⟩⟩

namespace Overrides

theorem ofAdditions_append_singleton (fallback : Categories) (additions : List Addition)
    (addition : Addition) :
    ofAdditions fallback (additions ++ [addition]) =
      (ofAdditions fallback additions).add addition :=
  List.foldl_append

/-- One addition changes what is found in its slot and nowhere else. -/
theorem findKey?_add (overrides : Overrides) (addition : Addition) (name : List Char)
    (kind : Kind) :
    (overrides.add addition).findKey? name kind =
      if addition.slot = (name, kind) then some addition.rule
      else overrides.findKey? name kind := by
  by_cases here : addition.slot = (name, kind)
  · have same : (key addition.code, addition.kind) = (name, kind) := here
    simp only [findKey?, add, insert, List.find?_cons, decide_eq_true same, if_pos here,
      Option.map_some]
  · have different : ¬ (key addition.code, addition.kind) = (name, kind) := here
    simp only [findKey?, add, insert, List.find?_cons, decide_eq_false different, if_neg here]

theorem findKey?_eq_none_iff {name : List Char} {kind : Kind} :
    (ofAdditions fallback additions).findKey? name kind = none ↔ Free (name, kind) additions := by
  induction additions using List.reverseRecOn with
  | nil => exact iff_of_true rfl fun _ member => nomatch member
  | append_singleton additions addition ih =>
      rw [ofAdditions_append_singleton, findKey?_add, free_append_singleton, ← ih]
      by_cases here : addition.slot = (name, kind)
      · simp [here]
      · simp [here]

/-- After any additions the last rule for a slot is found in it. -/
theorem findKey?_eq_some_iff {name : List Char} {kind : Kind} :
    (ofAdditions fallback additions).findKey? name kind = some rule ↔
      LastFor (name, kind) additions rule := by
  induction additions using List.reverseRecOn with
  | nil =>
      refine iff_of_false nofun ?_
      rintro ⟨earlier, addition, later, split, _⟩
      exact absurd split.symm (by simp)
  | append_singleton additions addition ih =>
      rw [ofAdditions_append_singleton, findKey?_add, lastFor_append_singleton, ← ih]
      by_cases here : addition.slot = (name, kind)
      · simp [here]
      · simp [here]

/-- Only the additions for a slot count for what is found in it. -/
theorem findKey?_filter {name : List Char} {kind : Kind} {keep : Addition → Bool}
    (kept : ∀ addition : Addition, addition.slot = (name, kind) → keep addition = true) :
    (ofAdditions fallback (additions.filter keep)).findKey? name kind =
      (ofAdditions fallback additions).findKey? name kind := by
  induction additions using List.reverseRecOn with
  | nil => rfl
  | append_singleton additions addition ih =>
      rw [List.filter_append, List.filter_singleton, ofAdditions_append_singleton, findKey?_add,
        ← ih]
      by_cases here : addition.slot = (name, kind)
      · simp only [kept addition here, cond_true, ofAdditions_append_singleton, findKey?_add]
      · cases keep addition with
        | true => simp only [cond_true, ofAdditions_append_singleton, findKey?_add]
        | false => simp only [cond_false, List.append_nil, if_neg here]

theorem fallback_ofAdditions (fallback : Categories) (additions : List Addition) :
    (ofAdditions fallback additions).fallback = fallback := by
  induction additions using List.reverseRecOn with
  | nil => rfl
  | append_singleton additions addition ih =>
      rw [ofAdditions_append_singleton]
      exact ih

end Overrides

theorem Reordered.filter_slot {first second : List Addition} (reordered : Reordered first second)
    (slot : List Char × Kind) :
    first.filter (·.slot = slot) = second.filter (·.slot = slot) := by
  induction reordered with
  | same additions => rfl
  | @swap earlier first second later apart =>
      simp only [List.filter_append, List.filter_cons]
      by_cases here : first.slot = slot
      · have elsewhere : second.slot ≠ slot := here ▸ apart.symm
        simp only [here, elsewhere, decide_true, decide_false, if_true, Bool.false_eq_true,
          if_false]
      · simp only [here, decide_false, Bool.false_eq_true, if_false]
  | trans before after ihBefore ihAfter => exact ihBefore.trans ihAfter

end Additions

section Spellings

/-- A character as it stands in a key. -/
def folded (c : Char) : Char :=
  (if c = '_' then '-' else c).toLower

theorem isLower_toLower {c : Char} (changed : c.toLower ≠ c) : c.toLower.isLower = true := by
  by_cases upper : c.val ≥ 'A'.val ∧ c.val ≤ 'Z'.val
  · have lower : c.toLower.val = c.val + ('a'.val - 'A'.val) := congrArg Char.val (dif_pos upper)
    have within : 'a'.val ≤ c.toLower.val ∧ c.toLower.val ≤ 'z'.val := by
      simp only [lower, ge_iff_le, UInt32.le_iff_toNat_le, UInt32.toNat_add] at upper ⊢
      have first : 'A'.val.toNat = 65 := rfl
      have last : 'Z'.val.toNat = 90 := rfl
      have firstLower : 'a'.val.toNat = 97 := rfl
      have lastLower : 'z'.val.toNat = 122 := rfl
      have distance : ('a'.val - 'A'.val).toNat = 32 := rfl
      omega
    exact (Bool.and_eq_true _ _).mpr ⟨decide_eq_true within.1, decide_eq_true within.2⟩
  · exact absurd (dif_neg upper) changed

theorem eq_underscore_of_toLower {c : Char} (lower : c.toLower = '_') : c = '_' := by
  by_cases changed : c.toLower = c
  · rw [← changed, lower]
  · have letter := isLower_toLower changed
    rw [lower] at letter
    contradiction

theorem isBlank_folded (c : Char) : isBlank (folded c) = isBlank c := by
  cases blank : isBlank c with
  | true =>
      have unchanged : (folded c != c) = false :=
        @not_of_isBlank (fun c => folded c != c) (by decide +kernel) c blank
      rw [bne_eq_false_iff_eq.mp unchanged, blank]
  | false =>
      by_cases hyphen : c = '_'
      · subst c
        rfl
      rw [folded, if_neg hyphen]
      by_cases changed : c.toLower = c
      · rw [changed, blank]
      · refine Bool.eq_false_iff.mpr fun blankLower => ?_
        have noLetter : c.toLower.isLower = false := not_of_isBlank (by decide +kernel) blankLower
        rw [isLower_toLower changed] at noLetter
        contradiction

theorem allBlank_map_folded {text : List Char} (blank : AllBlank text) :
    AllBlank (text.map folded) := by
  intro c member
  obtain ⟨first, present, rfl⟩ := List.mem_map.mp member
  rw [isBlank_folded]
  exact blank first present

theorem Overrides.key_eq_trimList (code : String) :
    key code = trimList (code.toList.map folded) := by
  rw [trimList_map isBlank_folded, key, normalized, List.map_map]
  rfl

theorem Alike.folded_eq {first second : Char} (alike : Alike first second) :
    folded first = folded second := by
  rcases alike with lower | ⟨hyphen, hyphen'⟩
  · by_cases underscore : first = '_'
    · subst first
      rw [eq_underscore_of_toLower lower.symm]
    · have other : second ≠ '_' := by
        rintro rfl
        exact underscore (eq_underscore_of_toLower lower)
      rw [folded, folded, if_neg underscore, if_neg other, lower]
  · simp only [List.mem_cons, List.not_mem_nil, or_false] at hyphen hyphen'
    rcases hyphen with rfl | rfl <;> rcases hyphen' with rfl | rfl <;> rfl

theorem map_folded_of_alike {text text' : List Char} (alike : List.Forall₂ Alike text text') :
    text.map folded = text'.map folded := by
  induction alike with
  | nil => rfl
  | cons first _ ih => rw [List.map_cons, List.map_cons, first.folded_eq, ih]

/-- The key of a code is the same in all its spellings. -/
theorem Respelled.key_eq {first second : String} (respelled : Respelled first second) :
    Overrides.key first = Overrides.key second := by
  obtain ⟨before, text, after, before', text', after', blankBefore, blankAfter, blankBefore',
    blankAfter', alike, spelled, spelled'⟩ := respelled
  simp only [Overrides.key_eq_trimList, spelled, spelled', List.map_append,
    trimList_between (allBlank_map_folded blankBefore) _ (allBlank_map_folded blankAfter),
    trimList_between (allBlank_map_folded blankBefore') _ (allBlank_map_folded blankAfter'),
    map_folded_of_alike alike]

end Spellings

namespace Overrides

variable {fallback : Categories} {additions : List Addition} {code : String} {kind : Kind}
  {rule : Int → String}

theorem category_of_find? {overrides : Overrides} (found : overrides.find? code kind = some rule)
    (number : Int) : overrides.category code kind number = rule number := by
  rw [category, found]

theorem category_of_missing {overrides : Overrides} (missing : overrides.find? code kind = none)
    (number : Int) : overrides.category code kind number = overrides.fallback code kind number := by
  rw [category, missing]

/-- Tables that find the same rules of a kind and have one fallback give the same categories. -/
theorem category_congr {first second : Overrides} (sameFallback : first.fallback = second.fallback)
    (same : ∀ key, first.findKey? key kind = second.findKey? key kind) (code : String)
    (number : Int) : first.category code kind number = second.category code kind number := by
  simp only [category, find?, same, sameFallback]

theorem find?_eq_some_iff :
    (ofAdditions fallback additions).find? code kind = some rule ↔
      Finds additions code kind rule := by
  rw [find?, Option.or_eq_some_iff, findKey?_eq_none_iff, findKey?_eq_some_iff,
    findKey?_eq_some_iff]
  constructor
  · rintro (last | ⟨free, last⟩)
    · exact .own last
    · exact .language free last
  · intro finds
    cases finds with
    | own last => exact Or.inl last
    | language free last => exact Or.inr ⟨free, last⟩

theorem find?_respelled {overrides : Overrides} {other : String}
    (respelled : Respelled code other) :
    overrides.find? other kind = overrides.find? code kind := by
  rw [find?, find?, respelled.key_eq]

theorem findKey?_reordered {reordered : List Addition} (order : Reordered additions reordered)
    (name : List Char) (kind : Kind) :
    (ofAdditions fallback reordered).findKey? name kind =
      (ofAdditions fallback additions).findKey? name kind := by
  have kept : ∀ addition : Addition, addition.slot = (name, kind) →
      decide (addition.slot = (name, kind)) = true :=
    fun _ => decide_eq_true
  rw [← findKey?_filter kept, ← order.filter_slot, findKey?_filter kept]

end Overrides

end Parlance.Plural
