import Parlance.Proofs.Pattern.Continuations

namespace Parlance.Pattern

open Parlance.Text

/-! # Completing a token

Where a token fails, the text in front of that place lacks the rest of a directive or of a tag. What
it lacks can be written behind it: a name, a kind, the value of an attribute, and the end.
-/

variable {kinds : DirectiveKinds} {input text : List Char} {failure : Failure}

/-- With more text behind it, the text is a lexeme. -/
def BecomesLexeme (kinds : DirectiveKinds) (text : List Char) (token : Token) : Prop :=
  ∃ more, NoQuote more ∧ ∀ next, NoQuote next → Lexeme kinds (text ++ (more ++ next)) token next

section Directives

variable {name kind : String}

theorem readStyle_error (failed : readStyle name kind input = .error failure) :
    ∃ text written, input = text ++ failure.rest ∧
      ∀ next, StyleText (text ++ '}' :: next) written ('}' :: next) := by
  unfold readStyle at failed
  split at failed
  · rename_i raw
    unfold closeStyle at failed
    split at failed
    · contradiction
    · cases failed
      have noBrace : ∀ c ∈ raw.takeWhile (!isBrace ·), isBrace c = false := by
        intro c member
        simpa using List.all_eq_true.mp List.all_takeWhile c member
      refine ⟨',' :: raw.takeWhile (!isBrace ·), styleOf (raw.takeWhile (!isBrace ·)), ?_,
        fun next => ?_⟩
      · rw [List.cons_append, List.takeWhile_append_dropWhile]
      · have closed : closeStyle name kind (styleOf (raw.takeWhile (!isBrace ·))) ('}' :: next) =
            .ok (.argument name kind (styleOf (raw.takeWhile (!isBrace ·))), next) := rfl
        exact (styleText_of_closeStyle noBrace closed).2
  · unfold closeStyle at failed
    split at failed
    · contradiction
    · cases failed
      exact ⟨[], none, rfl, fun next => .absent⟩

/-- A directive without its kind becomes one with a kind, and with branches if it has to. -/
theorem becomes_directive {blanks : List Char} (blank : AllBlank blanks)
    (named : ∀ next, Word isNameChar (text ++ next) name next) :
    ∃ token, BecomesLexeme kinds ('{' :: (text ++ ',' :: blanks)) token := by
  have typed (next : List Char) : Word isNameChar (blanks ++ (['a'] ++ next)) "a" next :=
    word_behind_blanks blank (by decide +kernel) next
  cases branching : kinds.isBranching "a" with
  | true =>
      refine ⟨.branching name "a", ['a', ','], by decide, fun next _ => ?_⟩
      simp only [List.append_assoc, List.cons_append, List.nil_append]
      exact .branching (named _) (typed _) branching
  | false =>
      refine ⟨.argument name "a" none, ['a', '}'], by decide, fun next _ => ?_⟩
      simp only [List.append_assoc, List.cons_append, List.nil_append]
      exact .format (named _) (typed _) branching .absent

theorem readKind_error (named : ∀ next, Word isNameChar (text ++ next) name next)
    {behind : List Char} (failed : readKind kinds name (skipBlank behind) = .error failure) :
    ∃ more token, behind = more ++ failure.rest ∧
      BecomesLexeme kinds ('{' :: (text ++ ',' :: more)) token := by
  unfold readKind at failed
  split at failed
  · cases failed
    obtain ⟨blanks, blank, split, _⟩ := exists_skipBlank behind
    obtain ⟨token, becomes⟩ := @becomes_directive kinds text name blanks blank named
    exact ⟨blanks, token, split, becomes⟩
  · rename_i kind later read
    obtain ⟨typed, split, refit⟩ := (word_of_readRun? read).taken
    split at failed
    · rename_i branching
      unfold openBranches at failed
      split at failed
      · contradiction
      · cases failed
        refine ⟨typed, .branching name kind, split, [','], by decide, fun next _ => ?_⟩
        simp only [List.append_assoc, List.cons_append, List.nil_append]
        exact .branching (named _) (refit _) branching
    · rename_i plain
      obtain ⟨style, written, styled, refitStyle⟩ := readStyle_error failed
      refine ⟨typed ++ style, .argument name kind written, ?_, ['}'], by decide, fun next _ => ?_⟩
      · rw [split, styled, List.append_assoc]
      · simp only [List.append_assoc, List.cons_append, List.nil_append]
        exact .format (named _) (refit _) (Bool.eq_false_iff.mpr plain) (refitStyle next)

/-- A directive that fails lacks a name, a kind, or its end. -/
theorem readDirective_error (failed : readDirective kinds input = .error failure) :
    ∃ text token, input = text ++ failure.rest ∧ BecomesLexeme kinds ('{' :: text) token := by
  unfold readDirective at failed
  split at failed
  · cases failed
    obtain ⟨blanks, blank, split, _⟩ := exists_skipBlank input
    refine ⟨blanks, .argument "a" valueKind none, split, ['a', '}'], by decide, fun next _ => ?_⟩
    exact .value (word_behind_blanks blank (by decide +kernel : IsRun isNameChar ['a']) _)
  · rename_i name behind read
    obtain ⟨named, split, refit⟩ := (word_of_readRun? read).taken
    unfold readDirectiveBody at failed
    split at failed
    · contradiction
    · rename_i after opened
      obtain ⟨more, token, splitAfter, becomes⟩ := readKind_error refit failed
      refine ⟨named ++ ',' :: more, token, ?_, becomes⟩
      rw [split, opened, splitAfter, List.append_assoc, List.cons_append]
    · cases failed
      refine ⟨named, .argument name valueKind none, split, ['}'], by decide, fun next _ => ?_⟩
      exact .value (refit _)

end Directives

section Tags

theorem readValue_error (failed : readValue input = .error failure) : input = failure.rest := by
  unfold readValue at failed
  split at failed
  · contradiction
  · split at failed
    · contradiction
    · cases failed
      rfl

theorem readAttribute?_error (failed : readAttribute? input = .error failure) :
    ∃ text entry, input = text ++ failure.rest ∧
      ∀ next, Attributes (text ++ 'x' :: next) [entry] next := by
  unfold readAttribute? at failed
  split at failed
  · contradiction
  rename_i named spaced
  split at failed
  · contradiction
  rename_i name behind run
  have valueFailed := error_of_map failed
  unfold readAttributeValue at valueFailed
  split at valueFailed
  · rename_i after equals
    have stopped := readValue_error (error_of_map valueFailed)
    obtain ⟨before, blanks, _, rfl, _⟩ := readRun?_eq_some spaced
    obtain ⟨written, tagName, _, rfl, rfl⟩ := readRun?_eq_some run
    obtain ⟨left, blankLeft, splitLeft, _⟩ := exists_skipBlank behind
    obtain ⟨right, blankRight, splitRight, _⟩ := exists_skipBlank after
    rw [equals] at splitLeft
    rw [stopped] at splitRight
    refine ⟨before ++ (written ++ (left ++ '=' :: right)), (String.ofList written, some "x"), ?_,
      fun next => ?_⟩
    · rw [splitLeft, splitRight]
      simp only [List.append_assoc, List.cons_append]
    · have value : AttributeValue (['x'] ++ next) (String.ofList ['x']) next := by
        refine .unquoted (by decide) fun quote more same isQuote => ?_
        cases same
        contradiction
      simp only [List.append_assoc, List.cons_append]
      exact .valued blanks tagName blankLeft blankRight value .nil
  · contradiction

/-- An attribute that fails lacks its value. -/
theorem readAttributes_error (failed : readAttributes input = .error failure) :
    ∃ text entries, input = text ++ failure.rest ∧
      ∀ next, NoQuote next → Attributes (text ++ 'x' :: next) entries next := by
  fun_induction readAttributes input with
  | case1 input other read =>
      cases failed
      obtain ⟨text, entry, split, valued⟩ := readAttribute?_error read
      exact ⟨text, [entry], split, fun next _ => valued next⟩
  | case2 => contradiction
  | case3 input entry behind read other later ih =>
      cases failed
      obtain ⟨first, split, refit⟩ := (attributes_of_readAttribute? read).taken
      obtain ⟨text, entries, splitBehind, valued⟩ := ih later
      refine ⟨first ++ text, [entry] ++ entries, ?_, fun next plain => ?_⟩
      · rw [split, splitBehind, List.append_assoc]
      · have plainValue : NoQuote ('x' :: next) := noQuote_cons.mpr ⟨by decide, plain⟩
        have adds := (plainValue.adds failure.rest).append text
        rw [← splitBehind] at adds
        rw [List.append_assoc]
        exact (refit _ (adds.closes _)).append (valued next plain)
  | case4 => contradiction

/-- A tag that fails lacks the value of an attribute, or its end. -/
theorem readTag_error {first : Char} (letter : first.isAlpha = true)
    (failed : readTag (first :: input) = .error failure) :
    ∃ text token, first :: input = text ++ failure.rest ∧ BecomesLexeme kinds ('<' :: text) token := by
  have name : ∀ c ∈ input.takeWhile isTagChar, isTagChar c = true :=
    List.all_eq_true.mp List.all_takeWhile
  have whole : input = input.takeWhile isTagChar ++ input.dropWhile isTagChar :=
    List.takeWhile_append_dropWhile.symm
  let opened (entries : List (String × Option String)) : Token :=
    .tag (String.ofList (first :: input.takeWhile isTagChar)) (Keyed.ofList entries)
  unfold readTag at failed
  rw [List.dropWhile_cons_of_pos (isTagChar_of_isAlpha letter)] at failed
  split at failed
  · rename_i read
    cases failed
    obtain ⟨text, entries, split, valued⟩ := readAttributes_error read
    refine ⟨first :: (input.takeWhile isTagChar ++ text), opened entries, ?_, ['x', '>'],
      by decide, fun next plain => ?_⟩
    · rw [List.cons_append, List.append_assoc, ← split, ← whole]
    · have attributes : Attributes (text ++ 'x' :: '>' :: next) entries ([] ++ '>' :: next) :=
        valued _ (noQuote_cons.mpr ⟨by decide, plain⟩)
      simp only [List.append_assoc, List.cons_append, List.nil_append]
      exact .tag letter name attributes allBlank_nil
  · rename_i entries behind read
    unfold closeTag at failed
    split at failed
    · contradiction
    · cases failed
      obtain ⟨blanks, blank, splitBehind, _⟩ := exists_skipBlank behind
      obtain ⟨text, split, refit⟩ := (attributes_of_readAttributes read).taken
      refine ⟨first :: (input.takeWhile isTagChar ++ (text ++ blanks)), opened entries, ?_, ['>'],
        by decide, fun next plain => ?_⟩
      · rw [List.cons_append, List.append_assoc, List.append_assoc, ← splitBehind, ← split, ← whole]
      · have plainEnd : NoQuote ('>' :: next) := noQuote_cons.mpr ⟨by decide, plain⟩
        have adds := (plainEnd.adds (skipBlank behind)).append blanks
        rw [← splitBehind] at adds
        simp only [List.append_assoc, List.cons_append, List.nil_append]
        exact .tag letter name (refit _ (adds.closes _)) blank

end Tags

/-- A token that fails lacks its end. -/
theorem readToken_error (failed : readToken kinds input = .error failure) :
    ∃ c text token, input = c :: (text ++ failure.rest) ∧ BecomesLexeme kinds (c :: text) token := by
  unfold readToken at failed
  split at failed
  · contradiction
  rename_i c behind
  split at failed
  · contradiction
  split at failed
  · contradiction
  split at failed
  · rename_i opened
    subst opened
    obtain ⟨text, token, split, becomes⟩ := readDirective_error (error_of_map failed)
    exact ⟨'{', text, token, by rw [split], becomes⟩
  split at failed
  · rename_i angle
    subst angle
    unfold readAngle at failed
    split at failed
    · contradiction
    rename_i first more
    split at failed
    · rename_i letter
      obtain ⟨text, token, split, becomes⟩ := readTag_error letter (error_of_map failed)
      exact ⟨'<', text, token, by rw [split], becomes⟩
    split at failed
    · contradiction
    · contradiction
  split at failed
  · contradiction
  · contradiction

end Parlance.Pattern
