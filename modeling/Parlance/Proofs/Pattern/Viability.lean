import Parlance.Proofs.Pattern.Completions
import Parlance.Proofs.Pattern.Positions

namespace Parlance.Pattern

open Parlance.Text

/-! # Viable prefixes

Everything in front of the place where the reader stops is the beginning of some pattern that is
read. What the failing step lacks is written behind it, and then all that is open is closed. The
steps before are made as they were, although there is another rest behind them now.
-/

/-- The text that closes what is open, the innermost first. -/
def closers : List Frame → List Char
  | [] => []
  | .branch .. :: rest => '}' :: '}' :: closers rest
  | .tag _ name _ :: rest => '<' :: '/' :: (name.toList ++ '>' :: closers rest)

variable {kinds : DirectiveKinds} {outer : Option String} {reading following : Reading}
  {frames : List Frame} {nodes : List Node} {input rest text : List Char} {failure : Failure}

section Closers

@[simp] theorem noQuote_closers_branch {before : List Node} {argument kind key : String}
    {branches : List (String × List Node)} :
    NoQuote (closers (.branch before argument kind branches key :: frames)) ↔
      NoQuote (closers frames) := by
  simp [closers, isQuote]

@[simp] theorem noQuote_closers_tag {before : List Node} {name : String}
    {attributes : List (String × Option String)} :
    NoQuote (closers (.tag before name attributes :: frames)) ↔
      NoQuote name.toList ∧ NoQuote (closers frames) := by
  simp [closers, isQuote]

theorem stops_closers (frames : List Frame) : Stops isTagStart (closers frames) := by
  cases frames with
  | nil => simp [closers, Stops]
  | cons frame rest =>
      cases frame with
      | branch => exact stops_cons (by decide)
      | tag => exact stops_cons (by decide)

/-- The reader closes all that is open. -/
theorem run_closers (frames : List Frame) (nodes : List Node) :
    ∃ message, run kinds outer ⟨frames, nodes⟩ (closers frames) = .ok (message, []) := by
  induction frames generalizing nodes with
  | nil => exact ⟨messageOf nodes, run_of_finished rfl⟩
  | cons frame rest ih =>
      cases frame with
      | branch before argument kind branches key =>
          have moves : Moves kinds outer ⟨.branch before argument kind branches key :: rest, nodes⟩
              ('}' :: ([] ++ '}' :: closers rest)) _ (closers rest) :=
            .closeDirective allBlank_nil
          obtain ⟨message, read⟩ := ih _
          exact ⟨message, moves.run.trans read⟩
      | tag before name attributes =>
          have moves : Moves kinds outer ⟨.tag before name attributes :: rest, nodes⟩
              ('<' :: '/' :: (name.toList ++ ([] ++ '>' :: closers rest))) _ (closers rest) :=
            .closeTag ⟨[], allBlank_nil, rfl⟩
          obtain ⟨message, read⟩ := ih _
          exact ⟨message, moves.run.trans read⟩

theorem Lexeme.noQuote_tag {name : String} {attributes : List (String × Option String)}
    (lexeme : Lexeme kinds input (.tag name attributes) rest) : NoQuote name.toList := by
  cases lexeme with
  | tag letter inside =>
      rw [String.toList_ofList, noQuote_cons]
      exact ⟨not_isQuote_of_isTagChar (isTagChar_of_isAlpha letter),
        fun c member => not_isQuote_of_isTagChar (inside c member)⟩

/-- No step opens a tag that has a quote in its name. -/
theorem Moves.noQuote_closers (moves : Moves kinds outer reading input following rest)
    (plain : NoQuote (closers reading.frames)) : NoQuote (closers following.frames) := by
  cases moves with
  | text | numberSign | argument | nextBranch => exact plain
  | openDirective => exact noQuote_closers_branch.mpr plain
  | closeDirective => exact noQuote_closers_branch.mp plain
  | openTag lexeme => exact noQuote_closers_tag.mpr ⟨lexeme.noQuote_tag, plain⟩
  | closeTag => exact (noQuote_closers_tag.mp plain).2

end Closers

/-- With more text behind it, the text is one step away from where only what is open has to be
closed. -/
def Completes (kinds : DirectiveKinds) (outer : Option String) (reading : Reading)
    (text : List Char) : Prop :=
  ∃ more following, NoQuote more ∧ NoQuote (closers following.frames) ∧
    Moves kinds outer reading (text ++ (more ++ closers following.frames)) following
      (closers following.frames)

section Steps

theorem otherKey_word {blanks : List Char} (blank : AllBlank blanks) (next : List Char) :
    Word isKeyChar (blanks ++ ("other".toList ++ next)) otherKey next :=
  word_behind_blanks blank (by decide +kernel) next

/-- An opening directive is completed by the key of a branch. -/
theorem Completes.openDirective (name kind key : String) {more : List Char}
    (plainMore : NoQuote more) (plain : NoQuote (closers frames))
    (opened : ∀ next, NoQuote next → ∃ behind,
      Lexeme kinds (text ++ (more ++ next)) (.branching name kind) behind ∧
        Word isKeyChar behind key ('{' :: next)) :
    Completes kinds outer ⟨frames, nodes⟩ text := by
  let following : Reading := ⟨.branch nodes name kind [] key :: frames, []⟩
  have plainAll : NoQuote (closers following.frames) := noQuote_closers_branch.mpr plain
  obtain ⟨behind, lexeme, keyed⟩ := opened _ plainAll
  exact ⟨more, following, plainMore, plainAll, .openDirective lexeme keyed⟩

/-- A step that lacks the end of its lexeme can be completed. -/
theorem BecomesLexeme.completes {token : Token} (becomes : BecomesLexeme kinds text token)
    (plain : NoQuote (closers frames)) : Completes kinds outer ⟨frames, nodes⟩ text := by
  obtain ⟨more, plainMore, lexeme⟩ := becomes
  cases token with
  | text value => exact ⟨more, ⟨frames, _⟩, plainMore, plain, .text (lexeme _ plain)⟩
  | numberSign => exact ⟨more, ⟨frames, _⟩, plainMore, plain, .numberSign (lexeme _ plain)⟩
  | argument name kind style =>
      exact ⟨more, ⟨frames, _⟩, plainMore, plain, .argument (lexeme _ plain)⟩
  | branching name kind =>
      have plainKey : NoQuote ("other".toList ++ ['{']) := by decide
      have plainAll := noQuote_append.mpr ⟨plainMore, plainKey⟩
      refine .openDirective name kind otherKey plainAll plain fun next plainNext => ?_
      have plainBehind : NoQuote ("other".toList ++ ['{'] ++ next) :=
        noQuote_append.mpr ⟨plainKey, plainNext⟩
      refine ⟨_, ?_, otherKey_word allBlank_nil ('{' :: next)⟩
      have opened := lexeme _ plainBehind
      simp only [List.append_assoc, List.cons_append, List.nil_append] at opened ⊢
      exact opened
  | tag name attributes =>
      let following : Reading := ⟨.tag nodes name attributes :: frames, []⟩
      have plainAll : NoQuote (closers following.frames) :=
        noQuote_closers_tag.mpr ⟨(lexeme [] noQuote_nil).noQuote_tag, plain⟩
      exact ⟨more, following, plainMore, plainAll, .openTag (lexeme _ plainAll)⟩

/-- The key of a branch is missing or used already, or its brace is missing. -/
theorem readBranch_error {used : List String} (failed : readBranch used input = .error failure) :
    (∃ blanks, AllBlank blanks ∧ input = blanks ++ failure.rest) ∨
      ∃ key text, key ∉ used ∧ input = text ++ failure.rest ∧
        ∀ next, Word isKeyChar (text ++ next) key next := by
  obtain ⟨blanks, blank, split, _⟩ := exists_skipBlank input
  simp only [readBranch] at failed
  split at failed
  · split at failed
    · cases failed
      exact Or.inl ⟨blanks, blank, split⟩
    · rw [← closeBranches_error (error_of_map failed)]
      exact Or.inl ⟨blanks, blank, split⟩
  · rename_i key behind read
    split at failed
    · cases failed
      exact Or.inl ⟨blanks, blank, split⟩
    · rename_i fresh
      obtain ⟨text, splitKey, refit⟩ := (word_of_readRun? read).taken
      rw [openBranch_error (error_of_map failed)] at splitKey
      exact Or.inr ⟨key, text, fresh, splitKey, refit⟩

theorem nextBranch_error {before : List Node} {argument kind : String}
    {branches : List (String × List Node)}
    (failed : nextBranch before argument kind branches frames input = .error failure) :
    readBranch (Keyed.keys branches) input = .error failure := by
  unfold nextBranch at failed
  split at failed
  · rename_i read
    cases failed
    exact read
  · contradiction
  · contradiction

theorem accept_error {token : Token} {behind : List Char}
    (lexeme : Lexeme kinds input token behind) (plain : NoQuote (closers frames))
    (failed : accept kinds outer ⟨frames, nodes⟩ token behind = .error failure) :
    ∃ c text, input = c :: (text ++ failure.rest) ∧
      Completes kinds outer ⟨frames, nodes⟩ (c :: text) := by
  cases token with
  | text | numberSign | argument | tag => contradiction
  | branching name kind =>
      obtain ⟨opening, rfl, refit⟩ := lexeme.branching_taken
      rcases readBranch_error (nextBranch_error failed) with
        ⟨blanks, blank, rfl⟩ | ⟨key, text, fresh, rfl, refitKey⟩
      · refine ⟨'{', opening ++ blanks, by rw [List.append_assoc], ?_⟩
        have plainKey : NoQuote ("other".toList ++ ['{']) := by decide
        refine .openDirective name kind otherKey plainKey plain fun next _ => ?_
        refine ⟨_, ?_, otherKey_word blank ('{' :: next)⟩
        simp only [List.append_assoc, List.cons_append, List.nil_append]
        exact refit _
      · refine ⟨'{', opening ++ text, by rw [List.append_assoc], ?_⟩
        have plainBrace : NoQuote ['{'] := by decide
        refine .openDirective name kind key plainBrace plain fun next _ => ?_
        refine ⟨_, ?_, refitKey ('{' :: next)⟩
        simp only [List.append_assoc, List.cons_append, List.nil_append]
        exact refit _

/-- A closing tag that fails has not begun, or it lacks its name or its end. -/
theorem readClosingTag_error {name : String} (plain : NoQuote name.toList)
    (failed : readClosingTag name input = .error failure) :
    input = failure.rest ∨ ∃ text more, input = '<' :: (text ++ failure.rest) ∧ NoQuote more ∧
      ∀ next, ClosingTag ('<' :: (text ++ (more ++ next))) name next := by
  unfold readClosingTag at failed
  split at failed
  · rename_i behind
    right
    unfold readClosingName at failed
    split at failed
    · cases failed
      refine ⟨['/'], name.toList ++ ['>'], rfl, ?_, fun next => ⟨[], allBlank_nil, ?_⟩⟩
      · exact noQuote_append.mpr ⟨plain, by decide⟩
      · simp only [List.append_assoc, List.cons_append, List.nil_append]
    · rename_i after exact
      rw [readExactly?_eq_some exact]
      split at failed
      · cases failed
        refine ⟨'/' :: name.toList, ['>'], rfl, by decide, fun next => ⟨[], allBlank_nil, ?_⟩⟩
        simp only [List.cons_append, List.nil_append]
      · unfold endClosingTag at failed
        split at failed
        · contradiction
        · cases failed
          obtain ⟨blanks, blank, split, _⟩ := exists_skipBlank after
          refine ⟨'/' :: (name.toList ++ blanks), ['>'], ?_, by decide,
            fun next => ⟨blanks, blank, ?_⟩⟩
          · rw [List.cons_append, List.append_assoc, ← split]
          · simp only [List.append_assoc, List.cons_append, List.nil_append]
  · cases failed
    exact Or.inl rfl

/-- The end of a message that fails has not begun, or it can be completed. -/
theorem close_error (plain : NoQuote (closers reading.frames))
    (failed : close reading input = .error failure) :
    input = failure.rest ∨ ∃ c text, input = c :: (text ++ failure.rest) ∧
      Completes kinds outer reading (c :: text) := by
  obtain ⟨frames, nodes⟩ := reading
  unfold close at failed
  split at failed
  · contradiction
  · rename_i before argument kind branches last frames opened
    cases opened
    have plainRest := noQuote_closers_branch.mp plain
    split at failed
    · rename_i closing
      cases failed
      exact Or.inl (closeBranches_error closing)
    · rename_i behind closing
      rw [closeBranches_eq_ok closing]
      right
      rcases readBranch_error (nextBranch_error failed) with
        ⟨blanks, blank, rfl⟩ | ⟨key, text, fresh, rfl, refit⟩
      · let node : Node :=
          .message argument kind (Keyed.insert branches last (messageOf nodes))
        refine ⟨'}', blanks, rfl, ['}'], ⟨frames, node :: before⟩, by decide, plainRest, ?_⟩
        exact .closeDirective blank
      · let following : Frame := .branch before argument kind
          (Keyed.insert branches last (messageOf nodes)) key
        refine ⟨'}', text, rfl, ['{'], ⟨following :: frames, []⟩, by decide,
          noQuote_closers_branch.mpr plainRest, ?_⟩
        exact .nextBranch (refit _) fresh
  · rename_i before name attributes frames opened
    cases opened
    obtain ⟨plainName, plainRest⟩ := noQuote_closers_tag.mp plain
    split at failed
    · rename_i closing
      cases failed
      rcases readClosingTag_error plainName closing with
        stopped | ⟨text, more, split, plainMore, closed⟩
      · exact Or.inl stopped
      · let node : Node := .tag name attributes (messageOf nodes)
        refine Or.inr ⟨'<', text, split, more, ⟨frames, node :: before⟩, plainMore, plainRest, ?_⟩
        exact .closeTag (closed _)
    · contradiction

/-- A step that fails has not begun, or what it has read can be completed. -/
theorem step_error (plain : NoQuote (closers reading.frames))
    (failed : step kinds outer reading input = .error failure) :
    input = failure.rest ∨ ∃ c text, input = c :: (text ++ failure.rest) ∧
      Completes kinds outer reading (c :: text) := by
  unfold step at failed
  split at failed
  · rename_i read
    cases failed
    obtain ⟨c, text, token, split, becomes⟩ := readToken_error read
    exact Or.inr ⟨c, text, split, becomes.completes plain⟩
  · exact close_error plain failed
  · rename_i read
    exact Or.inr (accept_error (lexeme_of_readToken read) plain failed)

end Steps

/-- Some text behind the text lets the reader come to the end. It may stand behind an angle bracket
and behind a value without quotes. -/
def Viable (kinds : DirectiveKinds) (outer : Option String) (reading : Reading)
    (text : List Char) : Prop :=
  ∃ more message, NoQuote more ∧ (text = [] → Stops isTagStart more) ∧
    run kinds outer reading (text ++ more) = .ok (message, [])

theorem viable_nil (plain : NoQuote (closers reading.frames)) : Viable kinds outer reading [] := by
  obtain ⟨message, read⟩ := @run_closers kinds outer reading.frames reading.nodes
  exact ⟨closers reading.frames, message, plain, fun _ => stops_closers _, read⟩

theorem Completes.viable {c : Char} (completes : Completes kinds outer reading (c :: text)) :
    Viable kinds outer reading (c :: text) := by
  obtain ⟨more, following, plainMore, plain, moves⟩ := completes
  obtain ⟨message, read⟩ := @run_closers kinds outer following.frames following.nodes
  exact ⟨more ++ closers following.frames, message, noQuote_append.mpr ⟨plainMore, plain⟩,
    fun empty => absurd empty (List.cons_ne_nil _ _), moves.run.trans read⟩

/-- What is viable behind a step is viable with what the step takes in front of it. -/
theorem Viable.of_moves {stop : List Char}
    (moves : Moves kinds outer reading input following (text ++ stop))
    (shorter : (text ++ stop).length < input.length) (viable : Viable kinds outer following text) :
    ∃ before, input = before ++ stop ∧ Viable kinds outer reading before := by
  obtain ⟨more, message, plain, stops, read⟩ := viable
  obtain ⟨taken, filling, rfl, plainFilling, gap, refit⟩ := moves.refits
  have follows : Follows (text ++ stop) (text ++ more) := by
    refine ⟨(plain.adds stop).append text, fun stopsRest => ?_⟩
    cases text with
    | nil => exact stops rfl
    | cons c rest => exact stopsRest
  have nonempty : taken ++ text ≠ [] := by
    rintro empty
    obtain ⟨rfl, rfl⟩ := List.append_eq_nil_iff.mp empty
    simp at shorter
  refine ⟨taken ++ text, by rw [List.append_assoc], filling ++ more, message,
    noQuote_append.mpr ⟨plainFilling, plain⟩, fun empty => absurd empty nonempty, ?_⟩
  have here : taken ++ text ++ (filling ++ more) = taken ++ (filling ++ (text ++ more)) := by
    rcases gap with rfl | nothing
    · simp only [List.nil_append, List.append_assoc]
    · obtain ⟨rfl, _⟩ := List.append_eq_nil_iff.mp nothing
      simp only [List.nil_append, List.append_nil]
  rw [here]
  exact (refit _ follows).run.trans read

theorem nextBranch_ne_finished {before message : List Node} {argument kind : String}
    {branches : List (String × List Node)} :
    nextBranch before argument kind branches frames input ≠ .ok (.finished message rest) := by
  unfold nextBranch
  split <;> exact fun same => nomatch same

theorem rest_of_finished {message : List Node}
    (finished : step kinds outer reading input = .ok (.finished message rest)) : rest = input := by
  unfold step at finished
  split at finished
  · contradiction
  · unfold close at finished
    split at finished
    · cases finished
      rfl
    · split at finished
      · contradiction
      · exact absurd finished nextBranch_ne_finished
    · split at finished
      · contradiction
      · cases finished
  · rename_i token behind _
    cases token with
    | text | numberSign | argument | tag => cases finished
    | branching => exact absurd finished nextBranch_ne_finished

/-- Where a reading stops. -/
def stopOf {α : Type} : Except Failure (α × List Char) → List Char
  | .error failure => failure.rest
  | .ok (_, rest) => rest

/-- What a reading takes before it stops is viable. -/
theorem viable_of_run {reading : Reading} {input : List Char}
    (plain : NoQuote (closers reading.frames)) :
    ∃ text, input = text ++ stopOf (run kinds outer reading input) ∧
      Viable kinds outer reading text := by
  -- by induction on the length of the input: a step that goes on leaves less of it
  cases stepped : step kinds outer reading input with
  | error failure =>
      rw [run_of_error stepped]
      rcases step_error plain stepped with rfl | ⟨c, text, rfl, completes⟩
      · exact ⟨[], rfl, viable_nil plain⟩
      · exact ⟨c :: text, rfl, completes.viable⟩
  | ok next =>
      cases next with
      | finished message rest =>
          rw [run_of_finished stepped]
          exact ⟨[], (rest_of_finished stepped).symm, viable_nil plain⟩
      | continued following rest =>
          have moves := moves_of_step stepped
          have shorter := step_length_lt stepped
          obtain ⟨text, split, viable⟩ :=
            @viable_of_run following rest (moves.noQuote_closers plain)
          rw [run_of_continued stepped]
          rw [split] at moves shorter
          exact viable.of_moves moves shorter
termination_by input.length

/-- What stands in front of the place where a pattern fails. -/
theorem exists_viable_of_readPattern {pattern : List Char}
    (failed : readPattern kinds pattern = .error failure) :
    ∃ text, pattern = text ++ failure.rest ∧
      ∃ more message, readPattern kinds (text ++ more) = .ok message := by
  obtain ⟨text, split, more, message, _, _, read⟩ :=
    @viable_of_run kinds none ⟨[], []⟩ pattern noQuote_nil
  refine ⟨text, ?_, more, message, readPattern_of_run read⟩
  unfold readPattern readMessage at failed
  split at failed
  · rename_i stopped
    cases failed
    rwa [stopped] at split
  · contradiction
  · rename_i stopped
    cases failed
    rwa [stopped] at split

/-- The text in front of a reported error is where the reader stopped. It tells the line and the
column, it is the whole pattern if nothing was left, and it is the beginning of a pattern that is
read. -/
theorem viable_prefix {pattern : String} {error : Error}
    (failed : parse kinds pattern = .error error) :
    ∃ front rest : String, pattern = front ++ rest ∧
      readPattern kinds pattern.toList = .error ⟨error.cause, rest.toList⟩ ∧
      error.position.line = 1 + front.toList.count '\n' ∧
      error.position.column = 1 + (front.toList.reverse.takeWhile (· != '\n')).length ∧
      (error.atEnd = true ↔ front = pattern) ∧
      ∃ more message, parse kinds (front ++ more) = .ok message := by
  unfold parse at failed
  cases stopped : readPattern kinds pattern.toList with
  | ok message =>
      rw [stopped] at failed
      contradiction
  | error failure =>
      rw [stopped] at failed
      obtain ⟨text, split, more, message, read⟩ := exists_viable_of_readPattern stopped
      have reported : Error.ofFailure pattern.toList failure = error := Except.error.inj failed
      rw [split, Error.ofFailure_append] at reported
      subst reported
      have whole : pattern = String.ofList text ++ String.ofList failure.rest := by
        rw [← String.ofList_append, ← split, String.ofList_toList]
      refine ⟨String.ofList text, String.ofList failure.rest, whole, ?_, ?_, ?_, ?_,
        String.ofList more, message, ?_⟩
      · rw [String.toList_ofList]
      · rw [String.toList_ofList]
        exact Position.line_after text
      · rw [String.toList_ofList]
        exact Position.column_after text
      · rw [List.isEmpty_iff]
        constructor
        · intro nothing
          rw [whole, nothing, String.ofList_nil, String.append_empty]
        · intro same
          have lists := congrArg String.toList same
          rw [String.toList_ofList, split] at lists
          exact List.self_eq_append_right.mp lists
      · rw [parse, String.toList_append, String.toList_ofList, String.toList_ofList, read]
        rfl

/-- A quote that is never closed, inside an open tag of an open branch. -/
theorem open_tag_is_viable :
    let kinds : DirectiveKinds := ⟨(· == "plural"), (· == "plural")⟩
    let pattern := "a\n\x7bn, plural, one \x7b<b x=\" y\x7d"
    parse kinds pattern = .error ⟨⟨2, 26⟩, .tagEnd, false⟩ ∧
      ∃ front rest : String, pattern = front ++ rest ∧ rest.toList = ['}'] ∧ front ≠ pattern ∧
        ∃ more message, parse kinds (front ++ more) = .ok message := by
  intro kinds pattern
  have failed : parse kinds pattern = .error ⟨⟨2, 26⟩, .tagEnd, false⟩ := by
    decide +kernel
  have stopped : readPattern kinds pattern.toList = .error ⟨.tagEnd, ['}']⟩ := by
    decide +kernel
  obtain ⟨front, rest, whole, same, _, _, atEnd, viable⟩ := viable_prefix failed
  rw [stopped] at same
  have left := Failure.mk.inj (Except.error.inj same)
  have unread : front ≠ pattern := fun all => absurd (atEnd.mpr all) (by decide)
  exact ⟨failed, front, rest, whole, left.2.symm, unread, viable⟩

end Parlance.Pattern
