import Mathlib.Data.List.Dedup
import Parlance.Plural.Memo

namespace Parlance.Plural

open Parlance.Locale

/-! # What a memo remembers

A memo answers every request as its source does, whatever it was asked before: each entry has the
rules that the source would build for it. It has one entry for each locale and kind that it was
asked for, so codes that are no locale share the entry of English.
-/

variable {Place Rules : Type}

namespace RuleSource

/-- The locale and the kind that a request is about. -/
def slot (source : RuleSource Place Rules) (request : String × Kind × Int) : Place × Kind :=
  (source.resolve request.1, request.2.1)

/-- The category that rules built for this one request give. -/
def answer (source : RuleSource Place Rules) (request : String × Kind × Int) : Category :=
  source.category (source.build (source.slot request)) request.2.2

theorem resolve_of_unread {source : RuleSource Place Rules} {code : String}
    (unread : source.read? (normalized code) = none) : source.resolve code = source.english := by
  rw [resolve, unread, Option.getD_none]

end RuleSource

namespace Memo

/-- The entries are what the source builds, and no two are for one locale and kind. -/
structure Coherent (source : RuleSource Place Rules) (memo : Memo Place Rules) : Prop where
  built : ∀ entry ∈ memo.entries, entry.2 = source.build entry.1
  distinct : memo.slots.Nodup

theorem coherent_empty (source : RuleSource Place Rules) : Coherent source empty :=
  ⟨fun _ member => absurd member List.not_mem_nil, List.nodup_nil⟩

theorem Coherent.cons {source : RuleSource Place Rules} {memo : Memo Place Rules}
    {slot : Place × Kind} (coherent : Coherent source memo) (fresh : slot ∉ memo.slots) :
    Coherent source ⟨(slot, source.build slot) :: memo.entries⟩ := by
  refine ⟨fun entry member => ?_, List.nodup_cons.mpr ⟨fresh, coherent.distinct⟩⟩
  rcases List.mem_cons.mp member with rfl | earlier
  · rfl
  · exact coherent.built entry earlier

variable [DecidableEq Place] {source : RuleSource Place Rules} {memo : Memo Place Rules}

theorem find?_eq_none {slot : Place × Kind} (missing : memo.find? slot = none) :
    slot ∉ memo.slots := by
  intro member
  obtain ⟨entry, present, same⟩ := List.mem_map.mp member
  have apart := List.find?_eq_none.mp (Option.map_eq_none_iff.mp missing) entry present
  exact apart (decide_eq_true same)

theorem Coherent.find?_eq_some {slot : Place × Kind} {rules : Rules}
    (coherent : Coherent source memo) (found : memo.find? slot = some rules) :
    slot ∈ memo.slots ∧ rules = source.build slot := by
  obtain ⟨entry, first, rfl⟩ := Option.map_eq_some_iff.mp found
  have matched := List.find?_some first
  have same : entry.1 = slot := of_decide_eq_true matched
  have member := List.mem_of_find?_eq_some first
  rw [← same]
  exact ⟨List.mem_map_of_mem member, coherent.built entry member⟩

/-- The rules of a slot are there already, or they are built and put in front. -/
theorem Coherent.rules_cases (coherent : Coherent source memo) (slot : Place × Kind) :
    (slot ∈ memo.slots ∧ memo.rules source slot = (source.build slot, memo)) ∨
      (slot ∉ memo.slots ∧
        memo.rules source slot =
          (source.build slot, ⟨(slot, source.build slot) :: memo.entries⟩)) := by
  cases found : memo.find? slot with
  | some rules =>
      obtain ⟨member, rfl⟩ := coherent.find?_eq_some found
      exact Or.inl ⟨member, by rw [rules, found]⟩
  | none => exact Or.inr ⟨find?_eq_none found, by rw [rules, found]⟩

/-- One request: the answer is fresh, and its slot is all that the memo may learn. -/
theorem Coherent.category (coherent : Coherent source memo) (request : String × Kind × Int) :
    ∃ after, memo.category source request.1 request.2.1 request.2.2 =
        (source.answer request, after) ∧
      Coherent source after ∧
      (∀ slot, slot ∈ after.slots ↔ slot ∈ memo.slots ∨ slot = source.slot request) ∧
      (source.slot request ∈ memo.slots → after = memo) := by
  unfold Memo.category
  rcases coherent.rules_cases (source.slot request) with ⟨present, found⟩ | ⟨fresh, built⟩
  · refine ⟨memo, ?_, coherent, fun slot => ⟨Or.inl, ?_⟩, fun _ => rfl⟩
    · rw [← RuleSource.slot, found]
      rfl
    · rintro (member | rfl)
      · exact member
      · exact present
  · refine ⟨_, ?_, coherent.cons fresh, fun slot => ?_, fun present => absurd present fresh⟩
    · rw [← RuleSource.slot, built]
      rfl
    · rw [slots, List.map_cons, List.mem_cons, or_comm]
      rfl

/-- Any requests one after the other: the answers are fresh, and the memo learns their slots. -/
theorem Coherent.answers (coherent : Coherent source memo)
    (requests : List (String × Kind × Int)) :
    (memo.answers source requests).1 = requests.map source.answer ∧
      Coherent source (memo.answers source requests).2 ∧
      ∀ slot, slot ∈ (memo.answers source requests).2.slots ↔
        slot ∈ memo.slots ∨ slot ∈ requests.map source.slot := by
  induction requests generalizing memo with
  | nil => exact ⟨rfl, coherent, fun slot => by simp [Memo.answers]⟩
  | cons request requests ih =>
      obtain ⟨after, answered, coherentAfter, learned, _⟩ := coherent.category request
      obtain ⟨fresh, coherentLast, learnedLast⟩ := ih coherentAfter
      have first : memo.answers source (request :: requests) =
          (source.answer request :: (after.answers source requests).1,
            (after.answers source requests).2) := by
        rw [Memo.answers, answered]
      rw [first, fresh]
      refine ⟨rfl, coherentLast, fun slot => ?_⟩
      rw [learnedLast, learned, List.map_cons, List.mem_cons, or_assoc]

theorem answers_append_singleton (requests : List (String × Kind × Int))
    (request : String × Kind × Int) :
    (memo.answers source (requests ++ [request])).2 =
      ((memo.answers source requests).2.category source request.1 request.2.1 request.2.2).2 := by
  induction requests generalizing memo with
  | nil => rfl
  | cons first requests ih => exact ih

/-- A request for a slot that was asked for before changes nothing. -/
theorem answers_append_of_mem {requests : List (String × Kind × Int)}
    {request : String × Kind × Int} (known : source.slot request ∈ requests.map source.slot) :
    (empty.answers source (requests ++ [request])).2 = (empty.answers source requests).2 := by
  obtain ⟨_, coherent, learned⟩ := (coherent_empty source).answers requests
  obtain ⟨after, answered, _, _, same⟩ := coherent.category request
  rw [answers_append_singleton, answered]
  exact same ((learned _).mpr (Or.inr known))

end Memo

/-- The memo of a source, after any requests: each was answered as if rules had been built for it
alone, and there is one entry for each locale and kind among the requests, with the rules that the
source builds. All codes that are no locale share the entry of English. -/
theorem memo_is_transparent [DecidableEq Place] (source : RuleSource Place Rules)
    (requests : List (String × Kind × Int)) :
    let memo := (Memo.empty.answers source requests).2
    (Memo.empty.answers source requests).1 = requests.map source.answer ∧
      (∀ entry ∈ memo.entries, entry.2 = source.build entry.1) ∧
      memo.slots.Perm (requests.map source.slot).dedup ∧
      ∀ request ∈ requests, source.read? (normalized request.1) = none →
        memo.slots.count (source.english, request.2.1) = 1 ∧
        ∀ code number, source.read? (normalized code) = none →
          (Memo.empty.answers source (requests ++ [(code, request.2.1, number)])).2 = memo := by
  intro memo
  obtain ⟨fresh, coherent, learned⟩ := (Memo.coherent_empty source).answers requests
  have members (slot : Place × Kind) : slot ∈ memo.slots ↔ slot ∈ requests.map source.slot := by
    rw [learned]
    exact or_iff_right List.not_mem_nil
  refine ⟨fresh, coherent.built, ?_, fun request member unread => ?_⟩
  · refine (List.perm_ext_iff_of_nodup coherent.distinct (List.nodup_dedup _)).mpr fun slot => ?_
    rw [members, List.mem_dedup]
  · have english : source.slot request = (source.english, request.2.1) :=
      congrArg (·, request.2.1) (RuleSource.resolve_of_unread unread)
    have asked : (source.english, request.2.1) ∈ requests.map source.slot :=
      english ▸ List.mem_map_of_mem member
    refine ⟨List.count_eq_one_of_mem coherent.distinct ((members _).mpr asked),
      fun code number unread => Memo.answers_append_of_mem ?_⟩
    rw [RuleSource.slot, RuleSource.resolve_of_unread unread]
    exact asked

/-- Two spellings of Russian share an entry. Codes that are no locale share that of English, also
with English itself; ranks have an entry of their own. -/
theorem unread_codes_share_english :
    let source := RuleSource.ofRules ruleOf
    let requests := [("not a locale!", Kind.cardinal, 1), ("ru_RU", .cardinal, 3),
      (" en ", .ordinal, 2), ("RU-ru", .cardinal, 5), ("en", .cardinal, 0)]
    let memo := (Memo.empty.answers source requests).2
    source.read? (normalized "not a locale!") = none ∧ source.read? (normalized "???") = none ∧
      (Memo.empty.answers source requests).1 = [.one, .few, .two, .many, .other] ∧
      memo.slots.length = 3 ∧ memo.slots.count (Locale.english, .cardinal) = 1 ∧
      (Memo.empty.answers source (requests ++ [("???", .cardinal, 7)])).2 = memo := by
  intro source requests memo
  have unread : source.read? (normalized "not a locale!") = none := by decide +kernel
  have unread' : source.read? (normalized "???") = none := by decide +kernel
  obtain ⟨fresh, _, once, shared⟩ := memo_is_transparent source requests
  obtain ⟨single, unchanged⟩ := shared _ List.mem_cons_self unread
  have different : (requests.map source.slot).dedup.length = 3 := by decide +kernel
  exact ⟨unread, unread', by rw [fresh]; decide +kernel, once.length_eq.trans different, single,
    unchanged "???" 7 unread'⟩

end Parlance.Plural
