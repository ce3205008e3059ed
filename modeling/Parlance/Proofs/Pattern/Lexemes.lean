import Parlance.Proofs.Pattern.Attributes

namespace Parlance.Pattern

open Parlance.Text

/-! # Tokens and their grammar

Every token that is read is a lexeme of the grammar. Every lexeme is read as it stands, but for
runs of text: the reader takes a run as far as it goes, and the grammar may cut it.
-/

variable {kinds : DirectiveKinds} {input rest : List Char}

section Words

variable {isMember : Char → Bool} {name : String}

theorem Word.read (word : Word isMember input name rest)
    (blanks : ∀ {c : Char}, isBlank c = true → isMember c = false)
    (noBlank : Stops isBlank rest) (stops : Stops isMember rest) :
    ∃ behind, readRun? isMember (skipBlank input) = some (name, behind) ∧
      skipBlank behind = rest := by
  obtain ⟨before, written, after, blankBefore, run, blankAfter, rfl, rfl⟩ := word
  have finish : Stops isMember (after ++ rest) := blankAfter.stops stops blanks
  refine ⟨after ++ rest, ?_, skipBlank_append blankAfter noBlank⟩
  rw [skipBlank_append blankBefore (run.stops_isBlank blanks), readRun?_append run finish]

theorem word_of_readRun? {behind : List Char}
    (read : readRun? isMember (skipBlank input) = some (name, behind)) :
    Word isMember input name (skipBlank behind) := by
  obtain ⟨before, blankBefore, split, _⟩ := exists_skipBlank input
  obtain ⟨after, blankAfter, splitBehind, _⟩ := exists_skipBlank behind
  obtain ⟨written, run, _, skipped, named⟩ := readRun?_eq_some read
  refine ⟨before, written, after, blankBefore, run, blankAfter, ?_, named⟩
  rw [← splitBehind, ← skipped, ← split]

theorem word_behind_blanks {blanks run : List Char} (blank : AllBlank blanks)
    (isRun : IsRun isMember run) (rest : List Char) :
    Word isMember (blanks ++ (run ++ rest)) (String.ofList run) rest :=
  ⟨blanks, run, [], blank, isRun, allBlank_nil, rfl, rfl⟩

end Words

section Styles

variable {name kind : String} {written : Option String} {token : Token}

theorem styleOf_of_allBlank {raw : List Char} (blank : AllBlank raw) : styleOf raw = none := by
  rw [styleOf, trimList_of_allBlank blank]
  rfl

theorem styleOf_of_trimmed {before style after : List Char} (blankBefore : AllBlank before)
    (trimmed : Trimmed style) (blankAfter : AllBlank after) :
    styleOf (before ++ (style ++ after)) = some (String.ofList style) := by
  simp only [styleOf, trimList_append blankBefore trimmed blankAfter, List.isEmpty_iff,
    trimmed.1, if_false]

theorem isBrace_of_isBlank {c : Char} (blank : isBlank c = true) : isBrace c = false := by
  cases brace : isBrace c with
  | false => rfl
  | true =>
      simp only [isBrace, List.mem_cons, List.not_mem_nil, or_false, decide_eq_true_eq] at brace
      rcases brace with rfl | rfl <;> exact absurd blank (by decide)

theorem readStyle_of_raw {raw : List Char} (noBrace : ∀ c ∈ raw, isBrace c = false) :
    readStyle name kind (',' :: (raw ++ '}' :: rest)) =
      .ok (.argument name kind (styleOf raw), rest) := by
  have inside : ∀ c ∈ raw, (!isBrace c) = true := by
    intro c member
    rw [noBrace c member]
    rfl
  have outside : Stops (fun c => !isBrace c) ('}' :: rest) := stops_cons (by decide)
  simp only [readStyle, takeWhile_append_of_stops inside outside,
    dropWhile_append_of_stops inside outside, closeStyle]

theorem StyleText.read (style : StyleText input written ('}' :: rest)) :
    readStyle name kind input = .ok (.argument name kind written, rest) := by
  generalize closing : '}' :: rest = behind at style
  cases style with
  | absent =>
      subst closing
      rfl
  | blank blank =>
      subst closing
      rw [readStyle_of_raw fun c member => isBrace_of_isBlank (blank c member),
        styleOf_of_allBlank blank]
  | @text before style after _ blankBefore trimmed noBrace blankAfter =>
      subst closing
      have noBraces : ∀ c ∈ before ++ (style ++ after), isBrace c = false := by
        intro c member
        rcases List.mem_append.mp member with inside | inside
        · exact isBrace_of_isBlank (blankBefore c inside)
        rcases List.mem_append.mp inside with inside | inside
        · exact noBrace c inside
        · exact isBrace_of_isBlank (blankAfter c inside)
      have read := @readStyle_of_raw rest name kind _ noBraces
      rw [styleOf_of_trimmed blankBefore trimmed blankAfter] at read
      simpa only [List.append_assoc] using read

theorem styleText_of_closeStyle {raw behind : List Char}
    (noBrace : ∀ c ∈ raw, isBrace c = false)
    (found : closeStyle name kind (styleOf raw) behind = .ok (token, rest)) :
    token = .argument name kind (styleOf raw) ∧
      StyleText (',' :: (raw ++ behind)) (styleOf raw) ('}' :: rest) := by
  unfold closeStyle at found
  split at found
  · cases found
    refine ⟨rfl, ?_⟩
    rcases exists_trimmed raw with blank | ⟨before, style, after, blankBefore, trimmed, blankAfter, rfl⟩
    · rw [styleOf_of_allBlank blank]
      exact .blank blank
    · rw [styleOf_of_trimmed blankBefore trimmed blankAfter]
      simp only [List.append_assoc]
      exact .text blankBefore trimmed (fun c member => noBrace c (by simp [member])) blankAfter
  · contradiction

theorem styleText_of_readStyle (found : readStyle name kind input = .ok (token, rest)) :
    ∃ written, token = .argument name kind written ∧
      StyleText input written ('}' :: rest) := by
  unfold readStyle at found
  split at found
  · rename_i raw
    have noBrace : ∀ c ∈ raw.takeWhile (!isBrace ·), isBrace c = false := by
      intro c member
      simpa using List.all_eq_true.mp List.all_takeWhile c member
    obtain ⟨same, style⟩ := styleText_of_closeStyle noBrace found
    rw [List.takeWhile_append_dropWhile] at style
    exact ⟨_, same, style⟩
  · unfold closeStyle at found
    split at found
    · cases found
      exact ⟨none, rfl, .absent⟩
    · contradiction

end Styles

section Directives

variable {name kind : String} {behind : List Char} {token : Token}

theorem readDirective_of_word (named : Word isNameChar input name rest)
    (noBlank : Stops isBlank rest) (stops : Stops isNameChar rest) :
    readDirective kinds input = readDirectiveBody kinds name rest := by
  obtain ⟨behind, read, skipped⟩ := named.read not_isNameChar_of_isBlank noBlank stops
  simp only [readDirective, read, skipped]

theorem readDirective_of_words (named : Word isNameChar input name (',' :: behind))
    (typed : Word isNameChar behind kind rest) (noBlank : Stops isBlank rest)
    (stops : Stops isNameChar rest) :
    readDirective kinds input =
      if kinds.isBranching kind then openBranches name kind rest
      else readStyle name kind rest := by
  obtain ⟨after, read, skipped⟩ := typed.read not_isNameChar_of_isBlank noBlank stops
  rw [readDirective_of_word named (stops_cons (by decide)) (stops_cons (by decide +kernel))]
  simp only [readDirectiveBody, readKind, read, skipped]

theorem StyleText.stops {isMember : Char → Bool} {written : Option String}
    (style : StyleText input written ('}' :: rest)) (brace : isMember '}' = false)
    (comma : isMember ',' = false) : Stops isMember input := by
  generalize closing : '}' :: rest = behind at style
  cases style with
  | absent =>
      subst closing
      exact stops_cons brace
  | blank => exact stops_cons comma
  | text => exact stops_cons comma

theorem lexeme_of_readDirective (found : readDirective kinds input = .ok (token, rest)) :
    Lexeme kinds ('{' :: input) token rest := by
  simp only [readDirective] at found
  split at found
  · contradiction
  rename_i name behind read
  have named := word_of_readRun? read
  unfold readDirectiveBody at found
  split at found
  · rename_i closed
    cases found
    rw [closed] at named
    exact .value named
  · rename_i after opened
    rw [opened] at named
    simp only [readKind] at found
    split at found
    · contradiction
    rename_i kind later readKind
    have typed := word_of_readRun? readKind
    split at found
    · rename_i branching
      unfold openBranches at found
      split at found
      · rename_i started
        cases found
        rw [started] at typed
        exact .branching named typed branching
      · contradiction
    · rename_i plain
      obtain ⟨written, rfl, style⟩ := styleText_of_readStyle found
      exact .format named typed (Bool.eq_false_iff.mpr plain) style
  · contradiction

end Directives

section Tags

variable {token : Token}

theorem takeWhile_tagName {first : Char} {more behind : List Char} (letter : first.isAlpha = true)
    (name : ∀ c ∈ more, isTagChar c = true) (stops : Stops isTagChar behind) :
    (first :: (more ++ behind)).takeWhile isTagChar = first :: more ∧
      (first :: (more ++ behind)).dropWhile isTagChar = behind := by
  have all : ∀ c ∈ first :: more, isTagChar c = true := by
    intro c member
    rcases List.mem_cons.mp member with rfl | later
    · exact isTagChar_of_isAlpha letter
    · exact name c later
  exact ⟨takeWhile_append_of_stops all stops, dropWhile_append_of_stops all stops⟩

theorem readTag_of_attributes {first : Char} {more behind blanks : List Char}
    {entries : List (String × Option String)} (letter : first.isAlpha = true)
    (name : ∀ c ∈ more, isTagChar c = true)
    (attributes : Attributes behind entries (blanks ++ '>' :: rest)) (blank : AllBlank blanks) :
    readTag (first :: (more ++ behind)) =
      .ok (.tag (String.ofList (first :: more)) (Keyed.ofList entries), rest) := by
  have ends : EndsTag (blanks ++ '>' :: rest) := ⟨blanks, rest, blank, rfl⟩
  have stops := attributes.stops ends not_isTagChar_of_isBlank (by decide +kernel)
  have bracket : Stops isBlank ('>' :: rest) := stops_cons (by decide)
  obtain ⟨taken, dropped⟩ := takeWhile_tagName letter name stops
  simp only [readTag, taken, dropped, attributes.read ends, skipBlank_append blank bracket,
    closeTag]

theorem lexeme_of_readTag {first : Char} {more : List Char} (letter : first.isAlpha = true)
    (found : readTag (first :: more) = .ok (token, rest)) :
    Lexeme kinds ('<' :: first :: more) token rest := by
  simp only [readTag] at found
  split at found
  · contradiction
  rename_i entries behind read
  unfold closeTag at found
  split at found
  · rename_i closed
    cases found
    obtain ⟨blanks, blank, split, _⟩ := exists_skipBlank behind
    have attributes := attributes_of_readAttributes read
    rw [closed] at split
    rw [List.dropWhile_cons_of_pos (isTagChar_of_isAlpha letter), split] at attributes
    have name : ∀ c ∈ more.takeWhile isTagChar, isTagChar c = true :=
      List.all_eq_true.mp List.all_takeWhile
    have lexeme : Lexeme kinds _ _ rest := .tag letter name attributes blank
    rw [List.takeWhile_append_dropWhile] at lexeme
    rwa [List.takeWhile_cons_of_pos (isTagChar_of_isAlpha letter)]
  · contradiction

end Tags

/-- Every lexeme is the token that is read, or it is a part of a run of text. -/
theorem Lexeme.read {token : Token} (lexeme : Lexeme kinds input token rest) :
    readToken kinds input = .ok (some (token, rest)) ∨
      ∃ text, IsRun isOrdinary text ∧ input = text ++ rest ∧ token = .text (String.ofList text) := by
  cases lexeme with
  | run run => exact Or.inr ⟨_, run, rfl, rfl⟩
  | special special => left; simp [readToken, readEscape, escapedText, special]
  | verbatim plain => left; simp [readToken, readEscape, escapedText, plain]
  | lastBackslash => exact Or.inl rfl
  | angle noTag =>
      left
      cases rest with
      | nil => rfl
      | cons next after =>
          have outside := noTag next rfl
          simp only [isTagStart, Bool.or_eq_false_iff, beq_eq_false_iff_ne] at outside
          simp [readToken, readAngle, outside]
  | numberSign => exact Or.inl rfl
  | value named =>
      left
      have read := @readDirective_of_word kinds _ _ _ named (stops_cons (by decide))
        (stops_cons (by decide +kernel))
      simp [readToken, read, readDirectiveBody, Except.map]
  | format named typed plain style =>
      left
      have read := @readDirective_of_words kinds _ _ _ _ _ named typed
        (style.stops (by decide) (by decide)) (style.stops (by decide +kernel) (by decide +kernel))
      rw [if_neg (Bool.eq_false_iff.mp plain), style.read] at read
      simp [readToken, read, Except.map]
  | branching named typed branching =>
      left
      have read := @readDirective_of_words kinds _ _ _ _ _ named typed (stops_cons (by decide))
        (stops_cons (by decide +kernel))
      rw [if_pos branching, openBranches] at read
      simp [readToken, read, Except.map]
  | tag letter name attributes blank =>
      left
      simp [readToken, readAngle, letter, readTag_of_attributes letter name attributes blank,
        Except.map]

theorem isOrdinary_of_ne {c : Char} (backslash : c ≠ '\\') (sign : c ≠ '#') (opened : c ≠ '{')
    (angle : c ≠ '<') (closed : c ≠ '}') : isOrdinary c = true := by
  simp [isOrdinary, backslash, sign, opened, angle, closed]

theorem lexeme_of_readEscape {escaped : Char} :
    Lexeme kinds ('\\' :: escaped :: rest) (.text (escapedText escaped)) rest := by
  unfold escapedText
  split
  · rename_i special
    exact .special special
  · rename_i plain
    exact .verbatim (Bool.eq_false_iff.mpr plain)

theorem lexeme_of_readAngle {token : Token} (found : readAngle input = .ok (some (token, rest))) :
    Lexeme kinds ('<' :: input) token rest := by
  unfold readAngle at found
  split at found
  · cases found
    exact .angle (by simp [Stops])
  rename_i c behind
  split at found
  · rename_i letter
    obtain ⟨result, read, same⟩ := exists_ok_of_map found
    cases same
    exact lexeme_of_readTag letter read
  split at found
  · cases found
  rename_i noLetter noSlash
  cases found
  exact .angle (stops_cons (by simp [isTagStart, noLetter, noSlash]))

/-- Every token that is read is a lexeme. -/
theorem lexeme_of_readToken {token : Token}
    (found : readToken kinds input = .ok (some (token, rest))) :
    Lexeme kinds input token rest := by
  unfold readToken at found
  split at found
  · cases found
  rename_i c behind
  split at found
  · rename_i backslash
    subst backslash
    cases behind with
    | nil =>
        cases found
        exact .lastBackslash
    | cons escaped after =>
        cases found
        exact lexeme_of_readEscape
  rename_i noBackslash
  split at found
  · rename_i sign
    subst sign
    cases found
    exact .numberSign
  rename_i noSign
  split at found
  · rename_i opened
    subst opened
    obtain ⟨result, read, same⟩ := exists_ok_of_map found
    cases same
    exact lexeme_of_readDirective read
  rename_i notOpened
  split at found
  · rename_i angle
    subst angle
    exact lexeme_of_readAngle found
  rename_i noAngle
  split at found
  · cases found
  rename_i notClosed
  cases found
  have ordinary := isOrdinary_of_ne noBackslash noSign notOpened noAngle notClosed
  have run : IsRun isOrdinary (c :: behind.takeWhile isOrdinary) := by
    refine ⟨List.cons_ne_nil _ _, ?_⟩
    intro d member
    rcases List.mem_cons.mp member with rfl | later
    · exact ordinary
    · exact List.all_eq_true.mp List.all_takeWhile d later
  have lexeme : Lexeme kinds _ _ (behind.dropWhile isOrdinary) := .run run
  rwa [List.cons_append, List.takeWhile_append_dropWhile] at lexeme

end Parlance.Pattern
