import Parlance.Proofs.Pattern.Viability

namespace Parlance.Pattern

open Parlance.Text

/-! # What may be left behind a message

A message goes on until nothing is left, or a closing brace or a closing tag stands next: everything
else begins a token, and a token that fails ends the whole reading. So what is left behind the
message of a pattern is a brace or a closing tag that nothing has opened, and these two faults are
found nowhere else.
-/

/-- Where no token can begin. -/
inductive MessageEnd : List Char → Prop
  | nothing : MessageEnd []
  | brace (more : List Char) : MessageEnd ('}' :: more)
  | closingTag (more : List Char) : MessageEnd ('<' :: '/' :: more)

/-- The causes of faults inside a message. The first three others are of faults behind it. -/
def Cause.isInner : Cause → Bool
  | unopenedTag | unmatchedBrace | unexpected _ | other _ => false
  | _ => true

/-- Only the cause for an unexpected character says so, and a cause with a message of its own. -/
theorem Cause.message_unexpected {cause : Cause}
    (begins : "unexpected character".toList <+: cause.message.toList) :
    (∃ c, cause = .unexpected c) ∨ ∃ message, cause = .other message := by
  cases cause with
  | unexpected c => exact Or.inl ⟨c, rfl⟩
  | other message => exact Or.inr ⟨message, rfl⟩
  | _ => exact absurd begins (by decide)

section Ends

variable {kinds : DirectiveKinds} {outer : Option String} {reading : Reading}
  {input rest : List Char} {nodes : List Node}

theorem readAngle_eq_none (ends : readAngle input = .ok none) : MessageEnd ('<' :: input) := by
  unfold readAngle at ends
  split at ends
  · cases ends
  · split at ends
    · obtain ⟨found, _, same⟩ := exists_ok_of_map ends
      cases same
    split at ends
    · rename_i slash
      subst slash
      exact .closingTag _
    · cases ends

/-- Every text that does not end the message begins with a token, which is read or fails. -/
theorem readToken_eq_none_iff : readToken kinds input = .ok none ↔ MessageEnd input := by
  refine ⟨fun ends => ?_, fun ends => by cases ends <;> rfl⟩
  unfold readToken at ends
  split at ends
  · exact .nothing
  split at ends
  · cases ends
  split at ends
  · cases ends
  split at ends
  · obtain ⟨found, _, same⟩ := exists_ok_of_map ends
    cases same
  split at ends
  · rename_i angle
    subst angle
    exact readAngle_eq_none ends
  split at ends
  · rename_i brace
    subst brace
    exact .brace _
  · cases ends

theorem messageEnd_of_finished
    (finished : step kinds outer reading input = .ok (.finished nodes rest)) : MessageEnd rest := by
  rw [rest_of_finished finished]
  unfold step at finished
  split at finished
  · contradiction
  · rename_i ends
    exact readToken_eq_none_iff.mp ends
  · rename_i token behind _
    cases token with
    | text | numberSign | argument | tag => cases finished
    | branching => exact absurd finished nextBranch_ne_finished

theorem messageEnd_of_run {reading : Reading} {input : List Char}
    (read : run kinds outer reading input = .ok (nodes, rest)) : MessageEnd rest := by
  -- by induction on the length of the input: a step that goes on leaves less of it
  cases stepped : step kinds outer reading input with
  | error failure =>
      rw [run_of_error stepped] at read
      contradiction
  | ok next =>
      cases next with
      | finished message left =>
          rw [run_of_finished stepped] at read
          cases read
          exact messageEnd_of_finished stepped
      | continued following left =>
          rw [run_of_continued stepped] at read
          have shorter := step_length_lt stepped
          exact messageEnd_of_run read
termination_by input.length

end Ends

section Faults

/-- The reader reads part of a message: it fails with faults inside the message only. -/
def FailsInside {α : Type} (result : Except Failure α) : Prop :=
  ∀ failure, result = .error failure → failure.cause.isInner = true

variable {kinds : DirectiveKinds} {outer : Option String}

theorem failsInside_ok {α : Type} (value : α) : FailsInside (.ok value) :=
  fun _ failed => nomatch failed

theorem failsInside_fail {α : Type} {cause : Cause} {rest : List Char}
    (inside : cause.isInner = true) : FailsInside (fail cause rest : Except Failure α) := by
  intro failure failed
  cases failed
  exact inside

theorem FailsInside.error {α β : Type} {result : Except Failure α} {failure : Failure}
    (inside : FailsInside result) (failed : result = .error failure) :
    FailsInside (.error failure : Except Failure β) := by
  intro other same
  cases same
  exact inside failure failed

theorem FailsInside.map {α β : Type} {result : Except Failure α} (inside : FailsInside result)
    (change : α → β) : FailsInside (result.map change) :=
  fun failure failed => inside failure (error_of_map failed)

theorem closeStyle_failsInside (name kind : String) (style : Option String) (input : List Char) :
    FailsInside (closeStyle name kind style input) := by
  unfold closeStyle
  split
  · exact failsInside_ok _
  · exact failsInside_fail rfl

theorem readStyle_failsInside (name kind : String) (input : List Char) :
    FailsInside (readStyle name kind input) := by
  unfold readStyle
  split
  · exact closeStyle_failsInside _ _ _ _
  · exact closeStyle_failsInside _ _ _ _

theorem readKind_failsInside (name : String) (input : List Char) :
    FailsInside (readKind kinds name input) := by
  unfold readKind
  split
  · exact failsInside_fail rfl
  split
  · unfold openBranches
    split
    · exact failsInside_ok _
    · exact failsInside_fail rfl
  · exact readStyle_failsInside _ _ _

theorem readDirective_failsInside (input : List Char) :
    FailsInside (readDirective kinds input) := by
  unfold readDirective
  split
  · exact failsInside_fail rfl
  unfold readDirectiveBody
  split
  · exact failsInside_ok _
  · exact readKind_failsInside _ _
  · exact failsInside_fail rfl

theorem readValue_failsInside (input : List Char) : FailsInside (readValue input) := by
  unfold readValue
  split
  · exact failsInside_ok _
  split
  · exact failsInside_ok _
  · exact failsInside_fail rfl

theorem readAttribute?_failsInside (input : List Char) : FailsInside (readAttribute? input) := by
  unfold readAttribute?
  split
  · exact failsInside_ok _
  split
  · exact failsInside_ok _
  refine FailsInside.map ?_ _
  unfold readAttributeValue
  split
  · exact (readValue_failsInside _).map _
  · exact failsInside_ok _

theorem readAttributes_failsInside (input : List Char) : FailsInside (readAttributes input) := by
  fun_induction readAttributes input with
  | case1 input failure failed => exact (readAttribute?_failsInside input).error failed
  | case2 => exact failsInside_ok _
  | case3 input entry rest found failure failed ih => exact ih.error failed
  | case4 => exact failsInside_ok _

theorem readTag_failsInside (input : List Char) : FailsInside (readTag input) := by
  unfold readTag
  split
  · rename_i failed
    exact (readAttributes_failsInside _).error failed
  unfold closeTag
  split
  · exact failsInside_ok _
  · exact failsInside_fail rfl

theorem readToken_failsInside (input : List Char) : FailsInside (readToken kinds input) := by
  unfold readToken
  split
  · exact failsInside_ok _
  split
  · exact failsInside_ok _
  split
  · exact failsInside_ok _
  split
  · exact (readDirective_failsInside _).map _
  split
  · unfold readAngle
    split
    · exact failsInside_ok _
    split
    · exact (readTag_failsInside _).map _
    split
    · exact failsInside_ok _
    · exact failsInside_ok _
  split
  · exact failsInside_ok _
  · exact failsInside_ok _

theorem closeBranches_failsInside (input : List Char) : FailsInside (closeBranches input) := by
  unfold closeBranches
  split
  · exact failsInside_ok _
  · exact failsInside_fail rfl

theorem readBranch_failsInside (used : List String) (input : List Char) :
    FailsInside (readBranch used input) := by
  simp only [readBranch]
  split
  · split
    · exact failsInside_fail rfl
    · exact (closeBranches_failsInside _).map _
  split
  · exact failsInside_fail rfl
  refine FailsInside.map ?_ _
  unfold openBranch
  split
  · exact failsInside_ok _
  · exact failsInside_fail rfl

theorem readClosingTag_failsInside (name : String) (input : List Char) :
    FailsInside (readClosingTag name input) := by
  unfold readClosingTag
  split
  · unfold readClosingName
    split
    · exact failsInside_fail rfl
    split
    · exact failsInside_fail rfl
    unfold endClosingTag
    split
    · exact failsInside_ok _
    · exact failsInside_fail rfl
  · exact failsInside_fail rfl

theorem nextBranch_failsInside (before : List Node) (argument kind : String)
    (branches : List (String × List Node)) (frames : List Frame) (input : List Char) :
    FailsInside (nextBranch before argument kind branches frames input) := by
  unfold nextBranch
  split
  · rename_i failed
    exact (readBranch_failsInside _ _).error failed
  · exact failsInside_ok _
  · exact failsInside_ok _

theorem step_failsInside (reading : Reading) (input : List Char) :
    FailsInside (step kinds outer reading input) := by
  unfold step
  split
  · rename_i failed
    exact (readToken_failsInside _).error failed
  · unfold close
    split
    · exact failsInside_ok _
    · split
      · rename_i failed
        exact (closeBranches_failsInside _).error failed
      · exact nextBranch_failsInside _ _ _ _ _ _
    · split
      · rename_i failed
        exact (readClosingTag_failsInside _ _).error failed
      · exact failsInside_ok _
  · rename_i token rest _
    cases token with
    | text | numberSign | argument | tag => exact failsInside_ok _
    | branching => exact nextBranch_failsInside _ _ _ _ _ _

/-- A message fails with one of its own faults. -/
theorem run_failsInside (reading : Reading) (input : List Char) :
    FailsInside (run kinds outer reading input) := by
  fun_induction run kinds outer reading input with
  | case1 reading input failure failed => exact (step_failsInside reading input).error failed
  | case2 => exact failsInside_ok _
  | case3 reading input next rest stepped ih => exact ih

end Faults

section Patterns

variable {kinds : DirectiveKinds}

theorem parse_of_failed {pattern : String} {failure : Failure}
    (failed : readMessage kinds none pattern.toList = .error failure) :
    parse kinds pattern = .error (Error.ofFailure pattern.toList failure) := by
  rw [parse, readPattern, failed]
  rfl

theorem parse_of_left {pattern : String} {nodes : List Node} {rest : List Char}
    (read : readMessage kinds none pattern.toList = .ok (nodes, rest)) (left : rest ≠ []) :
    parse kinds pattern = .error (Error.ofFailure pattern.toList ⟨leftoverCause rest, rest⟩) := by
  cases rest with
  | nil => exact absurd rfl left
  | cons c more =>
      rw [parse, readPattern, read]
      rfl

/-- What a pattern with a whole message in front is. -/
theorem parse_of_message {pattern : String} {nodes : List Node} {rest : List Char}
    (read : readMessage kinds none pattern.toList = .ok (nodes, rest)) :
    (rest = [] ∧ parse kinds pattern = .ok nodes) ∨
      (∃ more, rest = '}' :: more ∧ parse kinds pattern =
        .error (Error.ofFailure pattern.toList ⟨.unmatchedBrace, rest⟩)) ∨
      ∃ more, rest = '<' :: '/' :: more ∧ parse kinds pattern =
        .error (Error.ofFailure pattern.toList ⟨.unopenedTag, rest⟩) := by
  cases messageEnd_of_run read with
  | nothing =>
      rw [parse, readPattern_of_run read]
      exact Or.inl ⟨rfl, rfl⟩
  | brace more =>
      exact Or.inr (Or.inl ⟨more, rfl, parse_of_left read (List.cons_ne_nil _ _)⟩)
  | closingTag more =>
      exact Or.inr (Or.inr ⟨more, rfl, parse_of_left read (List.cons_ne_nil _ _)⟩)

/-- The faults behind a message and those in it have no cause in common. -/
theorem cause_of_parse {pattern : String} {error : Error}
    (failed : parse kinds pattern = .error error) :
    (∀ c, error.cause ≠ .unexpected c) ∧ (∀ message, error.cause ≠ .other message) ∧
      ((error.cause = .unmatchedBrace ∨ error.cause = .unopenedTag) ↔
        ∃ result, readMessage kinds none pattern.toList = .ok result) := by
  cases read : readMessage kinds none pattern.toList with
  | error failure =>
      have inside := run_failsInside _ _ failure read
      cases failed.symm.trans (parse_of_failed read)
      have apart {cause : Cause} (outer : cause.isInner = false) : failure.cause ≠ cause := by
        rintro rfl
        rw [outer] at inside
        contradiction
      refine ⟨fun c => apart rfl, fun message => apart rfl,
        iff_of_false ?_ (fun ⟨_, found⟩ => nomatch found)⟩
      exact not_or.mpr ⟨apart rfl, apart rfl⟩
  | ok result =>
      obtain ⟨nodes, rest⟩ := result
      rcases parse_of_message read with ⟨_, whole⟩ | ⟨more, _, brace⟩ | ⟨more, _, unopened⟩
      · cases failed.symm.trans whole
      · cases failed.symm.trans brace
        exact ⟨fun c same => (nomatch same), fun message same => (nomatch same),
          iff_of_true (Or.inl rfl) ⟨_, rfl⟩⟩
      · cases failed.symm.trans unopened
        exact ⟨fun c same => (nomatch same), fun message same => (nomatch same),
          iff_of_true (Or.inr rfl) ⟨_, rfl⟩⟩

/-- A message ends where nothing is left, before a closing brace or before a closing tag, whatever
is around it. So a pattern that begins with a whole message is read, or it has an unmatched brace or
an unopened tag behind the message. These two faults are found nowhere else, and no character is
ever called unexpected. -/
theorem message_ends_at_brace_or_tag (kinds : DirectiveKinds) :
    (∀ outer input nodes rest, readMessage kinds outer input = .ok (nodes, rest) →
      MessageEnd rest) ∧
    (∀ pattern nodes rest, readMessage kinds none pattern.toList = .ok (nodes, rest) →
      (rest = [] ∧ parse kinds pattern = .ok nodes) ∨
      (∃ more, rest = '}' :: more ∧ parse kinds pattern =
        .error (Error.ofFailure pattern.toList ⟨.unmatchedBrace, rest⟩)) ∨
      ∃ more, rest = '<' :: '/' :: more ∧ parse kinds pattern =
        .error (Error.ofFailure pattern.toList ⟨.unopenedTag, rest⟩)) ∧
    ∀ pattern error, parse kinds pattern = .error error →
      ¬ "unexpected character".toList <+: error.cause.message.toList ∧
      ((error.cause = .unmatchedBrace ∨ error.cause = .unopenedTag) ↔
        ∃ result, readMessage kinds none pattern.toList = .ok result) := by
  refine ⟨fun outer input nodes rest read => messageEnd_of_run read,
    fun pattern nodes rest read => parse_of_message read, fun pattern error failed => ?_⟩
  obtain ⟨expected, known, leftover⟩ := cause_of_parse failed
  refine ⟨fun begins => ?_, leftover⟩
  rcases Cause.message_unexpected begins with ⟨c, unexpected⟩ | ⟨message, told⟩
  · exact expected c unexpected
  · exact known message told

/-- A message with a tag in a branch, and behind it a brace too many: the brace is unmatched, and
the branch itself ends before its closing brace. -/
theorem brace_too_many :
    let kinds : DirectiveKinds := ⟨(· == "plural"), (· == "plural")⟩
    let pattern := "\x7bn, plural, one \x7b<b>#</b>\x7d other \x7bx\x7d\x7d\x7dy"
    let message := [Node.message "n" "plural"
      [("one", [.tag "b" [] [.format "n" "count" none]]), ("other", [.text "x"])]]
    readMessage kinds none pattern.toList = .ok (message, ['}', 'y']) ∧
      parse kinds pattern = .error ⟨⟨1, 38⟩, .unmatchedBrace, false⟩ ∧
      MessageEnd "\x7d other \x7bx\x7d\x7d\x7dy".toList ∧
      ¬ "unexpected character".toList <+: Cause.unmatchedBrace.message.toList := by
  intro kinds pattern message
  have read : readMessage kinds none pattern.toList = .ok (message, ['}', 'y']) := by
    decide +kernel
  have branch : readMessage kinds (some "n") "<b>#</b>\x7d other \x7bx\x7d\x7d\x7dy".toList =
      .ok ([.tag "b" [] [.format "n" "count" none]], "\x7d other \x7bx\x7d\x7d\x7dy".toList) := by
    decide +kernel
  obtain ⟨ends, leaves, named⟩ := message_ends_at_brace_or_tag kinds
  rcases leaves pattern message _ read with ⟨left, _⟩ | ⟨_, _, brace⟩ | ⟨_, left, _⟩
  · contradiction
  · have failed : parse kinds pattern = .error ⟨⟨1, 38⟩, .unmatchedBrace, false⟩ :=
      brace.trans (by decide +kernel)
    exact ⟨read, failed, ends _ _ _ _ branch, (named pattern _ failed).1⟩
  · cases left

end Patterns

end Parlance.Pattern
