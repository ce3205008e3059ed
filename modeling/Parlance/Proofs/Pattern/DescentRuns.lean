import Parlance.Proofs.Pattern.Progress

namespace Parlance.Pattern

open Parlance.Text

/-! # The descent and the run

The reader that keeps a stack reads what the descent reads, and it fails where the descent fails.
The calls that the descent has open are the frames of the stack: a message that ends inside a
frame is closed by the rest of the call that read it.
-/

variable {kinds : DirectiveKinds} {outer : Option String}

/-- The run from inside some frames descends through the nodes of a message and then goes on from
the end of the message. -/
def RunDescends (kinds : DirectiveKinds) (outer : Option String) (frames : List Frame)
    (nodes : List Node) (input : List Char) : Prop :=
  answered (run kinds outer ⟨frames, nodes⟩ input) =
    descendNodes kinds (countedArgument kinds outer frames) input >>= fun found =>
      answered (goOn kinds outer (close ⟨frames, found.1.reverse ++ nodes⟩ found.2))

theorem skipBlank_skipBlank (input : List Char) : skipBlank (skipBlank input) = skipBlank input :=
  skipBlank_append allBlank_nil (stops_dropWhile isBlank input)

section Branches

variable {before : List Node} {argument kind : String} {frames : List Frame}

/-- A branch goes through its message and its closing brace to the next branch. -/
theorem run_branch_descends {branches : List (String × List Node)} {key : String} {body : List Char}
    (message : RunDescends kinds outer (.branch before argument kind branches key :: frames) []
      body) :
    answered (run kinds outer ⟨.branch before argument kind branches key :: frames, []⟩ body) =
      descendMessage kinds (branchScope kinds (countedArgument kinds outer frames) argument kind)
        body >>= fun found =>
          answered (closeBranches found.2) >>= fun rest =>
            answered (goOn kinds outer
              (nextBranch before argument kind (Keyed.insert branches key found.1) frames
                rest)) := by
  have scope : countedArgument kinds outer (.branch before argument kind branches key :: frames) =
      branchScope kinds (countedArgument kinds outer frames) argument kind := rfl
  rw [RunDescends, scope] at message
  rw [message, descendMessage, messageBy, bind_assoc]
  congr 1
  funext found
  simp only [pure_bind, close, messageOf, List.append_nil, List.reverse_reverse]
  cases closeBranches found.2 <;> rfl

theorem run_nextBranch_descends {input : List Char} (branches : List (String × List Node))
    (messages : ∀ (frames : List Frame) (shorter : List Char), shorter.length < input.length →
      RunDescends kinds outer frames [] shorter) :
    answered (goOn kinds outer (nextBranch before argument kind branches frames input)) =
      descendBranches kinds (branchScope kinds (countedArgument kinds outer frames) argument kind)
        branches input >>= fun found =>
          answered (closeBranches (skipBlank found.2)) >>= fun rest =>
            answered (run kinds outer ⟨frames, .message argument kind found.1 :: before⟩ rest) := by
  rw [descendBranches, descend_eq, loopBy, branchBy]
  simp only [nextBranch, readBranch]
  cases read : readRun? isKeyChar (skipBlank input) with
  | none =>
      cases branches with
      | nil => rfl
      | cons first more =>
          simp only [Keyed.keys, List.map_cons, List.isEmpty_cons, Bool.false_eq_true, if_false,
            pure_bind, skipBlank_skipBlank]
          cases closeBranches (skipBlank input) <;> rfl
  | some found =>
      obtain ⟨key, behind⟩ := found
      by_cases used : key ∈ Keyed.keys branches
      · simp only [used, if_true]
        rfl
      simp only [used, if_false]
      cases opened : openBranch (skipBlank behind) with
      | error failure => rfl
      | ok body =>
          have shorter : body.length < input.length := by
            have start := skipBlank_length_le input
            have named := readRun?_length_lt read
            have blanks := skipBlank_length_le behind
            have brace := openBranch_length_lt opened
            omega
          simp only [Except.map, goOn, answered_ok_bind, bind_assoc]
          rw [run_branch_descends (messages _ body shorter)]
          -- the message leaves an end of its body, so what follows holds for the next branch
          refine (descendMessage_ends kinds _ body).bind_congr fun message rest suffix => ?_
          simp only
          cases closed : closeBranches rest with
          | error failure => rfl
          | ok after =>
              have less : after.length < input.length := by
                have length := suffix.length_le
                have brace := closeBranches_length_lt closed
                omega
              simp only [answered_ok_bind, pure_bind]
              exact run_nextBranch_descends (Keyed.insert branches key message)
                fun frames later smaller => messages frames later (Nat.lt_trans smaller less)
termination_by input.length

end Branches

section Nodes

variable {frames : List Frame} {nodes : List Node}

theorem run_accept_descends {input : List Char} (token : Token)
    (messages : ∀ (frames : List Frame) (later : List Char), later.length ≤ input.length →
      RunDescends kinds outer frames [] later) :
    answered (goOn kinds outer (accept kinds outer ⟨frames, nodes⟩ token input)) =
      descendBehind kinds (countedArgument kinds outer frames) token input >>= fun found =>
        answered (run kinds outer ⟨frames, found.1 :: nodes⟩ found.2) := by
  cases token with
  | text | numberSign | argument =>
      rw [descendBehind, behindBy]
      rfl
  | branching name kind =>
      rw [descendBehind, behindBy, accept, run_nextBranch_descends [] fun frames shorter less =>
        messages frames shorter (Nat.le_of_lt less)]
      simp only [descendBranches, bind_assoc, pure_bind]
  | tag name attributes =>
      have children := messages (.tag nodes name attributes :: frames) input (Nat.le_refl _)
      have scope : countedArgument kinds outer (.tag nodes name attributes :: frames) =
        countedArgument kinds outer frames := rfl
      rw [RunDescends, scope] at children
      rw [descendBehind, behindBy, accept, goOn, children, messageBy]
      simp only [bind_assoc, pure_bind]
      congr 1
      funext found
      simp only [close, messageOf, List.append_nil, List.reverse_reverse]
      cases readClosingTag name found.2 <;> rfl

theorem run_descends {input : List Char} (frames : List Frame) (nodes : List Node) :
    RunDescends kinds outer frames nodes input := by
  rw [RunDescends, descendNodes, descend_eq, loopBy, nodeBy_eq]
  cases read : readToken kinds input with
  | error failure =>
      rw [run_eq_goOn, step, read]
      rfl
  | ok found =>
      cases found with
      | none =>
          rw [run_of_end read]
          rfl
      | some found =>
          obtain ⟨token, behind⟩ := found
          have shorter := readToken_length_lt read
          rw [run_of_token read, run_accept_descends token fun frames later less =>
            run_descends frames []]
          simp only [answered_ok_bind, nodeBehind, bind_assoc, pure_bind]
          have ends := @descendBehind_ends kinds (countedArgument kinds outer frames) behind token
            fun scope later _ => descendMessage_ends kinds scope later
          refine ends.bind_congr fun node rest suffix => ?_
          have less := Nat.lt_of_le_of_lt suffix.length_le shorter
          have more := @run_descends rest frames (node :: nodes)
          rw [RunDescends] at more
          simp only [more, descendNodes, List.reverse_cons, List.append_assoc, List.cons_append,
            List.nil_append]
termination_by input.length

/-- The reader with a stack is the descent. -/
theorem descendMessage_eq (kinds : DirectiveKinds) (scope : Option String) (input : List Char) :
    descendMessage kinds scope input = answered (readMessage kinds scope input) := by
  have descends := @run_descends kinds scope input [] []
  rw [RunDescends] at descends
  rw [readMessage, descends, descendMessage, messageBy]
  congr 1
  funext found
  simp only [close, goOn, messageOf, List.append_nil, List.reverse_reverse]
  rfl

end Nodes

section Places

variable {pattern : String} {input : List Char}

theorem readMessage_suffix (kinds : DirectiveKinds) (scope : Option String) (input : List Char) :
    stopOf (readMessage kinds scope input) <:+ input := by
  obtain ⟨result, ended, suffix, _⟩ := descendMessage_ends kinds scope input
  rw [descendMessage_eq] at ended
  rwa [answered_inj ended]

theorem readPattern_suffix {failure : Failure} (failed : readPattern kinds input = .error failure) :
    failure.rest <:+ input := by
  have suffix := readMessage_suffix kinds none input
  unfold readPattern at failed
  split at failed
  · rename_i read
    cases failed
    rwa [read] at suffix
  · contradiction
  · rename_i read
    cases failed
    rwa [read] at suffix

/-- The place of an error parts the pattern between two characters, and what is left behind it has
no more bytes than the pattern. The position is found by offsets in bytes, which all lie between two
characters. -/
theorem place_in_range {error : Error} (failed : parse kinds pattern = .error error) :
    ∃ front rest : String, pattern = front ++ rest ∧
      readPattern kinds pattern.toList = .error ⟨error.cause, rest.toList⟩ ∧
      error.position = Position.after front.toList ∧
      Position.ofBytes? pattern rest = some error.position ∧
      rest.utf8ByteSize ≤ pattern.utf8ByteSize ∧
      front.rawEndPos = ⟨pattern.utf8ByteSize - rest.utf8ByteSize⟩ ∧
      String.Pos.Raw.IsValid pattern ⟨pattern.utf8ByteSize - rest.utf8ByteSize⟩ := by
  unfold parse at failed
  cases read : readPattern kinds pattern.toList with
  | ok message =>
      rw [read] at failed
      contradiction
  | error failure =>
      rw [read] at failed
      have reported : Error.ofFailure pattern.toList failure = error := Except.error.inj failed
      obtain ⟨text, split⟩ := readPattern_suffix read
      rw [← split, Error.ofFailure_append] at reported
      subst reported
      have whole : pattern = String.ofList text ++ String.ofList failure.rest := by
        rw [← String.ofList_append, split, String.ofList_toList]
      have bytes := congrArg String.utf8ByteSize whole
      rw [String.utf8ByteSize_append] at bytes
      have offset : (String.ofList text).rawEndPos =
          ⟨pattern.utf8ByteSize - (String.ofList failure.rest).utf8ByteSize⟩ := by
        rw [bytes, Nat.add_sub_cancel]
        rfl
      have placed := Position.ofBytes?_append (String.ofList text) (String.ofList failure.rest)
      rw [← whole, String.toList_ofList] at placed
      refine ⟨String.ofList text, String.ofList failure.rest, whole, ?_, ?_, placed, ?_, offset, ?_⟩
      · rw [String.toList_ofList]
      · rw [String.toList_ofList]
      · omega
      · exact String.Pos.Raw.isValid_iff_exists_append.mpr ⟨_, _, whole, offset.symm⟩

end Places

/-- Every reader of the descent ends and leaves an end of its input. A node, a branch and an
attribute that are read are not empty, so no loop goes through a round that reads nothing. The
descent is the reader that runs, and the place where that reader fails lies in the pattern. -/
theorem reading_progresses (kinds : DirectiveKinds) (scope : Option String) (input : List Char) :
    Ends input (descendMessage kinds scope input) ∧
    descendMessage kinds scope input = answered (readMessage kinds scope input) ∧
    Progresses (·.isSome = true) input (descendNode kinds scope input) ∧
    Progresses (·.isSome = true) input (descendDirective kinds scope input) ∧
    Progresses (·.isSome = true) input (descendTag kinds scope input) ∧
    (∀ branches, Ends input (descendBranches kinds scope branches input)) ∧
    (∀ used, Progresses (·.isSome = true) input (descendBranch kinds scope used input)) ∧
    Ends input (answered (readAttributes input)) ∧
    Progresses (·.isSome = true) input (descendAttribute input) ∧
    Progresses (fun _ => True) input (answered (readValue input)) ∧
    ∀ (pattern : String) (error : Error), parse kinds pattern = .error error →
      ∃ front rest : String, pattern = front ++ rest ∧
        readPattern kinds pattern.toList = .error ⟨error.cause, rest.toList⟩ ∧
        error.position = Position.after front.toList ∧
        Position.ofBytes? pattern rest = some error.position ∧
        rest.utf8ByteSize ≤ pattern.utf8ByteSize ∧
        front.rawEndPos = ⟨pattern.utf8ByteSize - rest.utf8ByteSize⟩ ∧
        String.Pos.Raw.IsValid pattern ⟨pattern.utf8ByteSize - rest.utf8ByteSize⟩ := by
  have messages (shorter : List Char) (_ : shorter.length < input.length) :=
    descendMessage_ends kinds scope shorter
  exact ⟨descendMessage_ends kinds scope input, descendMessage_eq kinds scope input,
    descendNode_progresses kinds scope input, descendDirective_progresses kinds scope input,
    descendTag_progresses kinds scope input, fun branches => descendBranches_ends branches messages,
    fun used => descendBranch_progresses used messages, readAttributes_ends input,
    descendAttribute_progresses input, readValue_progresses input,
    fun _ _ failed => place_in_range failed⟩

/-- The reader goes back to the second of two equal keys, which stands behind a letter of two
bytes and a newline. -/
theorem repeated_key_in_range :
    let kinds : DirectiveKinds := ⟨(· == "plural"), (· == "plural")⟩
    let pattern := "é\n\x7bn, plural, one \x7b#\x7d one \x7b<b>x</b>\x7d\x7d"
    let left := "one \x7b<b>x</b>\x7d\x7d"
    parse kinds pattern = .error ⟨⟨2, 21⟩, .repeatedSelector, false⟩ ∧
      descendMessage kinds none pattern.toList =
        answered (.error ⟨.repeatedSelector, left.toList⟩) ∧
      Position.ofBytes? pattern left = some ⟨2, 21⟩ ∧
      left.utf8ByteSize ≤ pattern.utf8ByteSize ∧
      String.Pos.Raw.IsValid pattern ⟨pattern.utf8ByteSize - left.utf8ByteSize⟩ := by
  intro kinds pattern left
  have failed : parse kinds pattern = .error ⟨⟨2, 21⟩, .repeatedSelector, false⟩ := by
    decide +kernel
  have stopped : readMessage kinds none pattern.toList =
      .error ⟨.repeatedSelector, left.toList⟩ := by
    decide +kernel
  obtain ⟨_, descent, _, _, _, _, _, _, _, _, places⟩ :=
    reading_progresses kinds none pattern.toList
  obtain ⟨front, rest, _, read, _, placed, fewer, _, valid⟩ := places pattern _ failed
  have same : rest = left := by
    unfold readPattern at read
    rw [stopped] at read
    exact String.toList_injective (Failure.mk.inj (Except.error.inj read)).2.symm
  rw [same] at placed fewer valid
  exact ⟨failed, descent.trans (congrArg answered stopped), placed, fewer, valid⟩

end Parlance.Pattern
