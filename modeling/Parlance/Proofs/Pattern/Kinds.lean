import Parlance.Proofs.Pattern.Steps

namespace Parlance.Pattern

open Parlance.Text

/-! # What the reader asks of kinds

The reader asks about the kinds that stand in the pattern and about no others. So two tables of
kinds that agree in these give the same message, or the same error at the same place. The kinds of
the message itself stand in the pattern, but for those of a name alone and of a number sign.
-/

/-- The tables tell the same of every kind that stands in the text. -/
structure AgreeIn (kinds other : DirectiveKinds) (text : List Char) : Prop where
  branching : ∀ kind : String, kind.toList <:+: text →
    kinds.isBranching kind = other.isBranching kind
  counting : ∀ kind : String, kind.toList <:+: text →
    kinds.isCounting kind = other.isCounting kind

/-- The kinds of the open directives. -/
def openKinds : List Frame → List String
  | [] => []
  | .branch _ _ kind _ _ :: rest => kind :: openKinds rest
  | .tag .. :: rest => openKinds rest

section Occurrences

variable {kinds : DirectiveKinds} {outer : Option String} {input rest : List Char}

theorem infix_of_readRun? {isMember : Char → Bool} {word : String}
    (read : readRun? isMember input = some (word, rest)) : word.toList <:+: input := by
  obtain ⟨text, _, _, rfl, rfl⟩ := readRun?_eq_some read
  rw [String.toList_ofList]
  exact (List.prefix_append text rest).isInfix

theorem Word.isInfix {isMember : Char → Bool} {word : String}
    (named : Word isMember input word rest) : word.toList <:+: input := by
  obtain ⟨before, name, after, _, _, _, rfl, rfl⟩ := named
  rw [String.toList_ofList]
  exact ⟨before, after ++ rest, by simp only [List.append_assoc]⟩

theorem infix_of_words {isMember isMember' : Char → Bool} {name kind : String} {c d : Char}
    {behind : List Char} (named : Word isMember input name (d :: behind))
    (typed : Word isMember' behind kind rest) : kind.toList <:+: c :: input :=
  (typed.isInfix.trans ((List.suffix_cons d behind).trans named.suffix).isInfix).trans
    (List.suffix_cons c input).isInfix

theorem Lexeme.branching_infix {name kind : String}
    (lexeme : Lexeme kinds input (.branching name kind) rest) : kind.toList <:+: input := by
  cases lexeme with
  | branching named typed => exact infix_of_words named typed

theorem Lexeme.argument_infix {name kind : String} {style : Option String}
    (lexeme : Lexeme kinds input (.argument name kind style) rest) :
    kind = valueKind ∨ kind.toList <:+: input := by
  cases lexeme with
  | value => exact Or.inl rfl
  | format named typed => exact Or.inr (infix_of_words named typed)

/-- The kinds of open directives have been read. -/
theorem Moves.openKinds_infix {reading next : Reading}
    (moves : Moves kinds outer reading input next rest) {kind : String}
    (opened : kind ∈ openKinds next.frames) :
    kind ∈ openKinds reading.frames ∨ kind.toList <:+: input := by
  cases moves with
  | text | numberSign | argument | nextBranch | openTag | closeTag => exact Or.inl opened
  | openDirective lexeme =>
      rcases List.mem_cons.mp opened with rfl | earlier
      · exact Or.inr lexeme.branching_infix
      · exact Or.inl earlier
  | closeDirective => exact Or.inl (List.mem_cons_of_mem _ opened)

end Occurrences

namespace AgreeIn

variable {kinds other : DirectiveKinds} {outer : Option String} {pattern input : List Char}

theorem of_infix (agree : AgreeIn kinds other pattern) (inside : input <:+: pattern) :
    AgreeIn kinds other input where
  branching kind stands := agree.branching kind (stands.trans inside)
  counting kind stands := agree.counting kind (stands.trans inside)

theorem of_suffix (agree : AgreeIn kinds other pattern) (inside : input <:+ pattern) :
    AgreeIn kinds other input :=
  agree.of_infix inside.isInfix

theorem readKind (agree : AgreeIn kinds other input) (name : String) :
    readKind kinds name input = Pattern.readKind other name input := by
  unfold Pattern.readKind
  cases read : readRun? isNameChar input with
  | none => rfl
  | some found =>
      obtain ⟨kind, rest⟩ := found
      simp only [agree.branching kind (infix_of_readRun? read)]

theorem readDirectiveBody (agree : AgreeIn kinds other input) (name : String) :
    readDirectiveBody kinds name input = Pattern.readDirectiveBody other name input := by
  unfold Pattern.readDirectiveBody
  split
  · rfl
  · rename_i rest
    exact (agree.of_suffix (suffix_cons_of_suffix (skipBlank_suffix rest))).readKind name
  · rfl

theorem readDirective (agree : AgreeIn kinds other input) :
    readDirective kinds input = Pattern.readDirective other input := by
  unfold Pattern.readDirective
  cases read : readRun? isNameChar (skipBlank input) with
  | none => rfl
  | some found =>
      obtain ⟨name, rest⟩ := found
      obtain ⟨text, _, _, split, _⟩ := readRun?_eq_some read
      have behind : rest <:+ input := (split ▸ List.suffix_append text rest).trans
        (skipBlank_suffix input)
      exact (agree.of_suffix ((skipBlank_suffix rest).trans behind)).readDirectiveBody name

theorem readToken (agree : AgreeIn kinds other input) :
    readToken kinds input = Pattern.readToken other input := by
  cases input with
  | nil => rfl
  | cons c rest =>
      simp only [Pattern.readToken, (agree.of_suffix (List.suffix_cons c rest)).readDirective]

theorem countedArgument (agree : AgreeIn kinds other pattern) {frames : List Frame}
    (stand : ∀ kind ∈ openKinds frames, kind.toList <:+: pattern) :
    countedArgument kinds outer frames = Pattern.countedArgument other outer frames := by
  induction frames with
  | nil => rfl
  | cons frame rest ih =>
      cases frame with
      | branch before argument kind branches key =>
          have later := ih fun kind opened => stand kind (List.mem_cons_of_mem _ opened)
          simp only [Pattern.countedArgument, later, agree.counting kind (stand kind List.mem_cons_self)]
      | tag before name attributes => exact ih stand

theorem step (agree : AgreeIn kinds other pattern) {reading : Reading}
    (stand : ∀ kind ∈ openKinds reading.frames, kind.toList <:+: pattern)
    (inside : input <:+ pattern) :
    step kinds outer reading input = Pattern.step other outer reading input := by
  have accepted : accept kinds outer reading = accept other outer reading := by
    funext token rest
    cases token with
    | numberSign => simp only [accept, agree.countedArgument stand]
    | text | argument | branching | tag => rfl
  simp only [Pattern.step, (agree.of_suffix inside).readToken, accepted]

/-- A reading asks about the kinds of open directives and about those in the input only. -/
theorem run (agree : AgreeIn kinds other pattern) {reading : Reading} {input : List Char}
    (stand : ∀ kind ∈ openKinds reading.frames, kind.toList <:+: pattern)
    (inside : input <:+ pattern) :
    run kinds outer reading input = Pattern.run other outer reading input := by
  have same : Pattern.step kinds outer reading input = Pattern.step other outer reading input :=
    agree.step stand inside
  cases stepped : Pattern.step kinds outer reading input with
  | error failure => rw [run_of_error stepped, run_of_error (same.symm.trans stepped)]
  | ok next =>
      cases next with
      | finished nodes rest => rw [run_of_finished stepped, run_of_finished (same.symm.trans stepped)]
      | continued next rest =>
          have moves := moves_of_step stepped
          have shorter := step_length_lt stepped
          rw [run_of_continued stepped, run_of_continued (same.symm.trans stepped)]
          refine agree.run (fun kind opened => ?_) (moves.suffix.trans inside)
          rcases moves.openKinds_infix opened with earlier | here
          · exact stand kind earlier
          · exact here.trans inside.isInfix
termination_by input.length

/-- Tables that agree in the kinds that stand in a pattern read it alike. -/
theorem parse {pattern : String} (agree : AgreeIn kinds other pattern.toList) :
    parse kinds pattern = Pattern.parse other pattern := by
  have read : readMessage kinds none pattern.toList = readMessage other none pattern.toList :=
    agree.run (fun kind opened => absurd opened List.not_mem_nil) (List.suffix_refl _)
  simp only [Pattern.parse, readPattern, read]

end AgreeIn

end Parlance.Pattern
