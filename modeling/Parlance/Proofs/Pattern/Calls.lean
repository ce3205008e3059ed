import Parlance.Pattern.Failure

namespace Parlance.Pattern

/-! # Calls that need not end

A recursion is given by what each call does with the calls that it makes itself. A call is answered
if it is answered with the calls inside of each other up to some depth. No call asks for more than
finitely many others before it is answered, so the answers of the recursion are those that its
calls give to each other.
-/

/-- A call fails, or it succeeds, or it never comes to an end. -/
abbrev Call := ExceptT Failure Option

variable {α β ι : Type} {Answer : ι → Type}

def answered (result : Except Failure α) : Call α :=
  ExceptT.mk (some result)

def unanswered : Call α :=
  ExceptT.mk none

@[simp] theorem answered_ok_bind (value : α) (next : α → Call β) :
    answered (.ok value) >>= next = next value :=
  rfl

theorem answered_inj {first second : Except Failure α} (same : answered first = answered second) :
    first = second :=
  Option.some.inj same

theorem answered_ne_unanswered {result : Except Failure α} : answered result ≠ unanswered :=
  Option.some_ne_none result

theorem Call.ext {first second : Call α}
    (same : ∀ result, first = answered result ↔ second = answered result) : first = second :=
  Option.ext same

theorem Call.answered_or_unanswered (call : Call α) :
    (∃ result, call = answered result) ∨ call = unanswered := by
  rcases Option.eq_none_or_eq_some call.run with never | ⟨result, ends⟩
  · exact Or.inr never
  · exact Or.inl ⟨result, ends⟩

/-- What each call of a recursion comes to. -/
abbrev Calls (Answer : ι → Type) := (index : ι) → Call (Answer index)

section Asking

/-- An answer hangs on finitely many calls, and these are answered. -/
def AsksFinitely (process : Calls Answer → Call α) : Prop :=
  ∀ calls result, process calls = answered result →
    ∃ made : List ι, (∀ index ∈ made, ∃ reply, calls index = answered reply) ∧
      ∀ others : Calls Answer, (∀ index ∈ made, others index = calls index) →
        process others = answered result

theorem asksFinitely_const (call : Call α) : AsksFinitely fun _ : Calls Answer => call :=
  fun _ _ same => ⟨[], by simp, fun _ _ => same⟩

theorem asksFinitely_call (index : ι) : AsksFinitely fun calls : Calls Answer => calls index := by
  intro calls result same
  refine ⟨[index], ?_, fun others agree => (agree index List.mem_cons_self).trans same⟩
  intro asked member
  cases List.mem_singleton.mp member
  exact ⟨result, same⟩

/-- Where more calls are answered, and the others as before, the answer stays. -/
theorem AsksFinitely.mono {process : Calls Answer → Call α} {calls others : Calls Answer}
    {result : Except Failure α} (finite : AsksFinitely process)
    (keeps : ∀ index reply, calls index = answered reply → others index = answered reply)
    (ends : process calls = answered result) : process others = answered result := by
  obtain ⟨made, replies, agreed⟩ := finite calls result ends
  refine agreed others fun index member => ?_
  obtain ⟨reply, replied⟩ := replies index member
  rw [replied, keeps index reply replied]

theorem AsksFinitely.bind {process : Calls Answer → Call α} {next : Calls Answer → α → Call β}
    (first : AsksFinitely process) (second : ∀ value, AsksFinitely fun calls => next calls value) :
    AsksFinitely fun calls => process calls >>= next calls := by
  intro calls result same
  change process calls >>= next calls = answered result at same
  rcases (process calls).answered_or_unanswered with ⟨found, ends⟩ | never
  · obtain ⟨made, replies, agreed⟩ := first calls found ends
    cases found with
    | error failure =>
        refine ⟨made, replies, fun others agree => ?_⟩
        simp only [ends, agreed others agree] at same ⊢
        exact same
    | ok value =>
        rw [ends, answered_ok_bind] at same
        obtain ⟨more, moreReplies, moreAgreed⟩ := second value calls result same
        refine ⟨made ++ more, ?_, fun others agree => ?_⟩
        · intro index member
          exact (List.mem_append.mp member).elim (replies index) (moreReplies index)
        · have here := agreed others fun index member => agree index (List.mem_append_left _ member)
          calc process others >>= next others = next others value := by
                rw [here, answered_ok_bind]
            _ = answered result :=
                moreAgreed others fun index member => agree index (List.mem_append_right _ member)
  · simp only [never] at same
    exact absurd same.symm answered_ne_unanswered

end Asking

section Recursion

/-- The calls that need at most so many calls inside of each other. -/
def callsWithin (body : Calls Answer → Calls Answer) : Nat → Calls Answer
  | 0, _ => unanswered
  | depth + 1, index => body (callsWithin body depth) index

open Classical in
/-- What the calls come to with as many calls inside of each other as they need. -/
noncomputable def recursion (body : Calls Answer → Calls Answer) : Calls Answer := fun index =>
  if ends : ∃ result depth, callsWithin body depth index = answered result then
    answered ends.choose
  else unanswered

variable {body : Calls Answer → Calls Answer} {index : ι} {result : Except Failure (Answer index)}
variable (finite : ∀ index, AsksFinitely fun calls => body calls index)
include finite

theorem callsWithin_succ {depth : Nat} (ends : callsWithin body depth index = answered result) :
    callsWithin body (depth + 1) index = answered result := by
  induction depth generalizing index with
  | zero => exact absurd ends.symm answered_ne_unanswered
  | succ depth ih => exact (finite index).mono (fun _ _ => ih) ends

theorem callsWithin_of_le {depth deeper : Nat} (less : depth ≤ deeper)
    (ends : callsWithin body depth index = answered result) :
    callsWithin body deeper index = answered result := by
  induction less with
  | refl => exact ends
  | step _ ih => exact callsWithin_succ finite ih

theorem recursion_eq_answered_iff : recursion body index = answered result ↔
    ∃ depth, callsWithin body depth index = answered result := by
  by_cases ends : ∃ result depth, callsWithin body depth index = answered result
  · have unfolded : recursion body index = answered ends.choose := by
      rw [recursion, dif_pos ends]
    obtain ⟨enough, chosen⟩ := ends.choose_spec
    rw [unfolded]
    constructor
    · intro same
      exact ⟨enough, chosen.trans same⟩
    · rintro ⟨depth, found⟩
      have here := callsWithin_of_le finite (Nat.le_max_left enough depth) chosen
      exact here.symm.trans (callsWithin_of_le finite (Nat.le_max_right enough depth) found)
  · have unfolded : recursion body index = unanswered := by
      rw [recursion, dif_neg ends]
    rw [unfolded]
    constructor
    · intro same
      exact absurd same.symm answered_ne_unanswered
    · rintro ⟨depth, found⟩
      exact absurd ⟨result, depth, found⟩ ends

/-- Finitely many answers of the recursion are all given within one depth. -/
theorem exists_depth (made : List ι)
    (replies : ∀ index ∈ made, ∃ reply, recursion body index = answered reply) :
    ∃ depth, ∀ index ∈ made, callsWithin body depth index = recursion body index := by
  induction made with
  | nil => exact ⟨0, by simp⟩
  | cons index more ih =>
      obtain ⟨depth, within⟩ := ih fun other member => replies other (List.mem_cons_of_mem _ member)
      obtain ⟨reply, replied⟩ := replies index List.mem_cons_self
      obtain ⟨enough, found⟩ := (recursion_eq_answered_iff finite).mp replied
      refine ⟨max enough depth, fun other member => ?_⟩
      rcases List.mem_cons.mp member with rfl | later
      · rw [replied, callsWithin_of_le finite (Nat.le_max_left _ _) found]
      · obtain ⟨otherReply, otherReplied⟩ := replies other member
        have ends := (within other later).trans otherReplied
        rw [otherReplied, callsWithin_of_le finite (Nat.le_max_right _ _) ends]

/-- The calls of a recursion do what its body says of each other. -/
theorem recursion_eq (index : ι) : recursion body index = body (recursion body) index := by
  refine Call.ext fun result => ?_
  rw [recursion_eq_answered_iff finite]
  constructor
  · rintro ⟨depth, found⟩
    cases depth with
    | zero => exact absurd found.symm answered_ne_unanswered
    | succ depth =>
        exact (finite index).mono
          (fun _ _ within => (recursion_eq_answered_iff finite).mpr ⟨depth, within⟩) found
  · intro same
    obtain ⟨made, replies, agreed⟩ := finite index _ _ same
    obtain ⟨depth, within⟩ := exists_depth finite made replies
    exact ⟨depth + 1, agreed _ within⟩

end Recursion

end Parlance.Pattern
