import Parlance.Proofs.Pattern.Descent
import Parlance.Proofs.Pattern.Viability

namespace Parlance.Pattern

open Parlance.Text

/-! # Reading comes to an end

Every call of a reader ends, and what it leaves is an end of its input. A node, a branch and an
attribute leave less than they were given, and only shorter inputs are read inside of them.
-/

section Calls

variable {α β : Type} {moves : α → Prop} {moves' : β → Prop} {input rest : List Char}
  {call : Call (α × List Char)}

/-- The call ends. What it leaves is an end of the input, and a shorter one if it succeeds with
something that `moves` the reader. -/
def Progresses (moves : α → Prop) (input : List Char) (call : Call (α × List Char)) : Prop :=
  ∃ result, call = answered result ∧ stopOf result <:+ input ∧
    ∀ value rest, result = .ok (value, rest) → moves value → rest.length < input.length

/-- The call ends and leaves an end of the input, maybe all of it. -/
abbrev Ends (input : List Char) (call : Call (α × List Char)) : Prop :=
  Progresses (fun _ => False) input call

theorem progresses_error {failure : Failure} (suffix : failure.rest <:+ input) :
    Progresses moves input (answered (.error failure)) :=
  ⟨_, rfl, suffix, fun _ _ same => nomatch same⟩

theorem progresses_ok {value : α} (suffix : rest <:+ input)
    (shorter : moves value → rest.length < input.length) :
    Progresses moves input (answered (.ok (value, rest))) := by
  refine ⟨_, rfl, suffix, fun other left same moved => ?_⟩
  cases same
  exact shorter moved

/-- A call that gives up makes no progress. -/
theorem progresses_none (suffix : rest <:+ input) :
    Progresses (·.isSome = true) input (answered (.ok ((none : Option α), rest))) :=
  progresses_ok suffix fun isSome => absurd isSome Bool.false_ne_true

theorem ends_ok {value : α} (suffix : rest <:+ input) :
    Ends input (answered (.ok (value, rest))) :=
  progresses_ok suffix False.elim

/-- A call on less than the input makes progress whatever it gives. -/
theorem Progresses.of_shorter (suffix : rest <:+ input) (shorter : rest.length < input.length)
    (ends : Ends rest call) : Progresses moves input call := by
  obtain ⟨result, ended, left, _⟩ := ends
  refine ⟨result, ended, left.trans suffix, fun value last same _ => ?_⟩
  subst same
  exact Nat.lt_of_le_of_lt left.length_le shorter

theorem Ends.of_suffix (ends : Ends rest call) (suffix : rest <:+ input) : Ends input call := by
  obtain ⟨result, ended, left, _⟩ := ends
  exact ⟨result, ended, left.trans suffix, fun _ _ _ => False.elim⟩

theorem Progresses.bind {next : α × List Char → Call (β × List Char)}
    (first : Progresses moves input call)
    (second : ∀ value rest, rest <:+ input → (moves value → rest.length < input.length) →
      Progresses moves' input (next (value, rest))) :
    Progresses moves' input (call >>= next) := by
  obtain ⟨result, rfl, left, shorter⟩ := first
  cases result with
  | error failure => exact progresses_error left
  | ok found =>
      obtain ⟨value, rest⟩ := found
      exact second value rest left (shorter value rest rfl)

/-- A call behind a reader that calls nothing. -/
theorem Progresses.behind {read : Except Failure β} {next : β → Call (α × List Char)}
    (stops : ∀ failure, read = .error failure → failure.rest <:+ input)
    (goes : ∀ value, read = .ok value → Progresses moves input (next value)) :
    Progresses moves input (answered read >>= next) := by
  cases read with
  | error failure => exact progresses_error (stops failure rfl)
  | ok value => exact goes value rfl

/-- A call that ends hands only ends of its input on. -/
theorem Progresses.bind_congr {next other : α × List Char → Call β}
    (first : Progresses moves input call)
    (same : ∀ value rest, rest <:+ input → next (value, rest) = other (value, rest)) :
    call >>= next = call >>= other := by
  obtain ⟨result, rfl, left, _⟩ := first
  cases result with
  | error failure => rfl
  | ok found => exact same found.1 found.2 left

end Calls

variable {kinds : DirectiveKinds} {scope : Option String} {input rest : List Char}
  {failure : Failure}

section Readers

theorem readRun?_suffix {isMember : Char → Bool} {word : String}
    (read : readRun? isMember input = some (word, rest)) : rest <:+ input := by
  obtain ⟨text, _, _, rfl, _⟩ := readRun?_eq_some read
  exact List.suffix_append text rest

theorem openBranch_suffix (opened : openBranch input = .ok rest) : rest <:+ input := by
  rw [openBranch_eq_ok opened]
  exact List.suffix_cons _ _

theorem closeBranches_suffix (closed : closeBranches input = .ok rest) : rest <:+ input := by
  rw [closeBranches_eq_ok closed]
  exact List.suffix_cons _ _

theorem readClosingTag_error_suffix {name : String}
    (failed : readClosingTag name input = .error failure) : failure.rest <:+ input := by
  unfold readClosingTag at failed
  split at failed
  · rename_i behind
    apply suffix_cons_of_suffix
    apply suffix_cons_of_suffix
    unfold readClosingName at failed
    split at failed
    · cases failed
      exact List.suffix_refl _
    rename_i after exact
    rw [readExactly?_eq_some exact]
    apply suffix_append_of_suffix
    split at failed
    · cases failed
      exact List.suffix_refl _
    unfold endClosingTag at failed
    split at failed
    · contradiction
    · cases failed
      exact skipBlank_suffix after
  · cases failed
    exact List.suffix_refl _

theorem readToken_error_suffix (failed : readToken kinds input = .error failure) :
    failure.rest <:+ input := by
  obtain ⟨c, text, _, rfl, _⟩ := readToken_error failed
  exact suffix_cons_of_suffix (List.suffix_append text failure.rest)

end Readers

section Attributes

/-- One round of the loop over the attributes. Where no attribute stands, nothing is taken. -/
def descendAttribute (input : List Char) :
    Call (Option (String × Option String) × List Char) :=
  answered ((readAttribute? input).map fun
    | some (entry, rest) => (some entry, rest)
    | none => (none, input))

theorem readAttribute?_error_suffix (failed : readAttribute? input = .error failure) :
    failure.rest <:+ input := by
  obtain ⟨text, _, rfl, _⟩ := readAttribute?_error failed
  exact List.suffix_append text failure.rest

theorem descendAttribute_progresses (input : List Char) :
    Progresses (·.isSome = true) input (descendAttribute input) := by
  unfold descendAttribute
  cases read : readAttribute? input with
  | error failure => exact progresses_error (readAttribute?_error_suffix read)
  | ok found =>
      cases found with
      | none => exact progresses_none (List.suffix_refl _)
      | some found =>
          have suffix := (attributes_of_readAttribute? read).suffix
          exact progresses_ok suffix fun _ => readAttribute?_length_lt read

/-- The loop over the attributes ends, whether or not the last round fails. -/
theorem readAttributes_ends (input : List Char) : Ends input (answered (readAttributes input)) := by
  cases read : readAttributes input with
  | error failure =>
      obtain ⟨text, _, rfl, _⟩ := readAttributes_error read
      exact progresses_error (List.suffix_append text failure.rest)
  | ok found => exact ends_ok (attributes_of_readAttributes read).suffix

theorem readValue_progresses (input : List Char) :
    Progresses (fun _ => True) input (answered (readValue input)) := by
  cases read : readValue input with
  | error failure =>
      rw [readValue_error read]
      exact progresses_error (List.suffix_refl _)
  | ok found =>
      exact progresses_ok (attributeValue_of_readValue read).suffix
        fun _ => readValue_length_lt read

end Attributes

section Branches

/-- A branch with a key opens a brace, and its message is shorter than the branch. -/
theorem descendBranch_progresses (used : List String)
    (inner : ∀ shorter : List Char, shorter.length < input.length →
      Ends shorter (descendMessage kinds scope shorter)) :
    Progresses (·.isSome = true) input (descendBranch kinds scope used input) := by
  have start := skipBlank_suffix input
  rw [descendBranch, branchBy]
  split
  · exact progresses_none start
  rename_i key behind read
  split
  · exact progresses_error start
  have keyed := (skipBlank_suffix behind).trans ((readRun?_suffix read).trans start)
  refine .behind (fun failure failed => openBranch_error failed ▸ keyed) fun body opened => ?_
  have shorter : body.length < input.length :=
    Nat.lt_of_lt_of_le (openBranch_length_lt opened) keyed.length_le
  refine .of_shorter ((openBranch_suffix opened).trans keyed) shorter ?_
  refine (inner body shorter).bind fun message rest suffix _ => ?_
  refine .behind (fun failure failed => closeBranches_error failed ▸ suffix) fun after closed => ?_
  exact ends_ok ((closeBranches_suffix closed).trans suffix)

theorem descendBranches_ends {input : List Char} (branches : List (String × List Node))
    (inner : ∀ shorter : List Char, shorter.length < input.length →
      Ends shorter (descendMessage kinds scope shorter)) :
    Ends input (descendBranches kinds scope branches input) := by
  -- by induction on the length of the input: a branch that is read leaves less of it
  rw [descendBranches, descend_eq, loopBy]
  refine (descendBranch_progresses (Keyed.keys branches) inner).bind
    fun branch rest suffix moved => ?_
  cases branch with
  | none =>
      dsimp only
      split
      · exact progresses_error suffix
      · exact ends_ok suffix
  | some branch =>
      have shorter := moved rfl
      exact (descendBranches_ends (Keyed.insert branches branch.1 branch.2)
        fun later less => inner later (Nat.lt_trans less shorter)).of_suffix suffix
termination_by input.length

end Branches

section Nodes

/-- What stands behind the token of a node may be as long as all that was left. -/
theorem descendBehind_ends (token : Token)
    (inner : ∀ (scope : Option String) (later : List Char), later.length ≤ input.length →
      Ends later (descendMessage kinds scope later)) :
    Ends input (descendBehind kinds scope token input) := by
  cases token with
  | text | numberSign | argument =>
      rw [descendBehind, behindBy]
      exact ends_ok (List.suffix_refl _)
  | branching name kind =>
      rw [descendBehind, behindBy]
      have branches := @descendBranches_ends kinds (branchScope kinds scope name kind) input []
        fun later less => inner _ later (Nat.le_of_lt less)
      refine branches.bind fun branches rest suffix _ => ?_
      have start := (skipBlank_suffix rest).trans suffix
      refine .behind (fun failure failed => closeBranches_error failed ▸ start)
        fun after closed => ?_
      exact ends_ok ((closeBranches_suffix closed).trans start)
  | tag name attributes =>
      rw [descendBehind, behindBy]
      refine (inner scope input (Nat.le_refl _)).bind fun children rest suffix _ => ?_
      refine .behind (fun failure failed => (readClosingTag_error_suffix failed).trans suffix)
        fun after closed => ?_
      exact ends_ok ((closingTag_of_read closed).suffix.trans suffix)

/-- Every token takes something, so all that stands inside a node is shorter than the node. -/
theorem descendNode_progresses_of_inner
    (inner : ∀ (scope : Option String) (shorter : List Char), shorter.length < input.length →
      Ends shorter (descendMessage kinds scope shorter)) :
    Progresses (·.isSome = true) input (descendNode kinds scope input) := by
  rw [descendNode, nodeBy_eq]
  refine .behind (fun failure failed => readToken_error_suffix failed) fun found read => ?_
  cases found with
  | none => exact progresses_none (List.suffix_refl _)
  | some found =>
      obtain ⟨token, behind⟩ := found
      have shorter := readToken_length_lt read
      refine .of_shorter (lexeme_of_readToken read).suffix shorter ?_
      have ends := @descendBehind_ends kinds scope behind token fun scope later less =>
        inner scope later (Nat.lt_of_le_of_lt less shorter)
      exact ends.bind fun node rest suffix _ => ends_ok suffix

theorem descendNodes_ends {input : List Char}
    (inner : ∀ (scope : Option String) (shorter : List Char), shorter.length < input.length →
      Ends shorter (descendMessage kinds scope shorter)) :
    Ends input (descendNodes kinds scope input) := by
  -- by induction on the length of the input: a node that is read leaves less of it
  rw [descendNodes, descend_eq, loopBy]
  refine (descendNode_progresses_of_inner inner).bind fun node rest suffix moved => ?_
  cases node with
  | none => exact ends_ok (List.suffix_refl _)
  | some node =>
      have shorter := moved rfl
      have more := @descendNodes_ends rest fun scope later less =>
        inner scope later (Nat.lt_trans less shorter)
      exact (more.of_suffix suffix).bind fun nodes last suffix _ => ends_ok suffix
termination_by input.length

/-- Only shorter messages stand inside a message. -/
theorem descendMessage_ends (kinds : DirectiveKinds) (scope : Option String)
    (input : List Char) : Ends input (descendMessage kinds scope input) := by
  rw [descendMessage, messageBy]
  have nodes := @descendNodes_ends kinds scope input fun scope shorter less =>
    descendMessage_ends kinds scope shorter
  exact nodes.bind fun nodes rest suffix _ => ends_ok suffix
termination_by input.length

theorem descendNode_progresses (kinds : DirectiveKinds) (scope : Option String)
    (input : List Char) : Progresses (·.isSome = true) input (descendNode kinds scope input) :=
  descendNode_progresses_of_inner fun scope shorter _ => descendMessage_ends kinds scope shorter

theorem descendDirective_progresses (kinds : DirectiveKinds) (scope : Option String)
    (input : List Char) :
    Progresses (·.isSome = true) input (descendDirective kinds scope input) := by
  by_cases opened : ∃ behind, input = '{' :: behind
  · obtain ⟨behind, rfl⟩ := opened
    rw [descendDirective, directiveBy_brace]
    exact descendNode_progresses kinds scope ('{' :: behind)
  · rw [descendDirective, directiveBy_of_ne fun behind same => opened ⟨behind, same⟩]
    exact progresses_none (List.suffix_refl _)

/-- A tag that gives up may have taken an angle bracket. -/
theorem descendTag_progresses (kinds : DirectiveKinds) (scope : Option String)
    (input : List Char) :
    Progresses (·.isSome = true) input (descendTag kinds scope input) := by
  by_cases opened : ∃ behind, input = '<' :: behind
  · obtain ⟨behind, rfl⟩ := opened
    by_cases letter : behind.head?.any Char.isAlpha = true
    · rw [descendTag, tagBy_of_letter letter]
      exact descendNode_progresses kinds scope ('<' :: behind)
    · rw [descendTag, tagBy, if_neg letter]
      exact progresses_none (List.suffix_cons _ _)
  · rw [descendTag, tagBy_of_ne fun behind same => opened ⟨behind, same⟩]
    exact progresses_none (List.suffix_refl _)

end Nodes

end Parlance.Pattern
