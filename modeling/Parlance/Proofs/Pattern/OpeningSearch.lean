import Parlance.Pattern.Opening
import Parlance.Proofs.Pattern.Runs

namespace Parlance.Pattern

open Parlance.Text

/-! # What is looked for in a pattern

The look goes through the runs of an opening at every place of the pattern, and each run takes
all that it can. It finds an opening wherever one is written: no run takes a character of what
comes behind it, since a word has no blanks, and neither the comma nor the brackets belong to a
run.
-/

/-- A brace, a word with blanks around it, and a comma. -/
inductive DirectiveOpening : List Char → Prop
  | words {before word after : List Char} (blankBefore : AllBlank before)
      (run : IsRun isWordChar word) (blankAfter : AllBlank after) :
      DirectiveOpening ('{' :: (before ++ (word ++ (after ++ [',']))))

/-- What may stand between the name of a tag and its end: nothing, or a blank and then anything but
brackets. -/
inductive TagGap : List Char → Prop
  | nothing : TagGap []
  | behindBlank {blank : Char} {more : List Char} (isBlank : isBlank blank = true)
      (inside : ∀ c ∈ more, c ≠ '<' ∧ c ≠ '>') : TagGap (blank :: more)

/-- An angle bracket, a name that begins with a letter, and the other bracket. -/
inductive TagOpening : List Char → Prop
  | named {first : Char} {name gap : List Char} (letter : first.isAlpha = true)
      (run : ∀ c ∈ name, isWordChar c = true ∨ c = ':' ∨ c = '-') (between : TagGap gap) :
      TagOpening ('<' :: first :: (name ++ (gap ++ ['>'])))

variable {here : List Char → Bool} {IsOpening : List Char → Prop} {text rest : List Char}

/-- What is found at a place just if an opening begins there is found just if an opening is part
of the text. -/
theorem anywhere_iff_infix
    (exact : ∀ input, here input = true ↔ ∃ opening, IsOpening opening ∧ opening <+: input) :
    anywhere here text = true ↔ ∃ opening, IsOpening opening ∧ opening <:+: text := by
  rw [anywhere_iff]
  constructor
  · rintro ⟨before, input, rfl, found⟩
    obtain ⟨opening, isOpening, more, rfl⟩ := (exact input).mp found
    exact ⟨opening, isOpening, before, more, List.append_assoc before opening more⟩
  · rintro ⟨opening, isOpening, before, more, rfl⟩
    have found := (exact (opening ++ more)).mpr ⟨opening, isOpening, more, rfl⟩
    exact ⟨before, opening ++ more, List.append_assoc before opening more, found⟩

theorem beginsWith_iff {c : Char} : beginsWith c text = true ↔ ∃ more, text = c :: more := by
  cases text with
  | nil => simp [beginsWith]
  | cons first more => simp [beginsWith]

section Directives

theorem opensDirective_of_run {before word after : List Char} (blankBefore : AllBlank before)
    (run : IsRun isWordChar word) (blankAfter : AllBlank after) :
    opensDirective ('{' :: (before ++ (word ++ (after ++ ',' :: rest)))) = true := by
  have comma : Stops isBlank (',' :: rest) := stops_cons (by decide)
  have finish : Stops isWordChar (after ++ ',' :: rest) :=
    blankAfter.stops (stops_cons (by decide +kernel)) not_isWordChar_of_isBlank
  have start : Stops isBlank (word ++ (after ++ ',' :: rest)) :=
    run.stops_isBlank not_isWordChar_of_isBlank
  simp [opensDirective, beginsWithWordAndComma, skipBlank_append blankBefore start,
    takeWhile_append_of_stops run.2 finish, dropWhile_append_of_stops run.2 finish,
    skipBlank_append blankAfter comma, run.1, beginsWith]

theorem exists_opening_of_word (found : beginsWithWordAndComma text = true) :
    ∃ opening, DirectiveOpening opening ∧ opening <+: '{' :: text := by
  simp only [beginsWithWordAndComma, Bool.and_eq_true, Bool.not_eq_true', beginsWith_iff,
    List.isEmpty_eq_false_iff] at found
  obtain ⟨nonempty, more, comma⟩ := found
  obtain ⟨before, blankBefore, split, _⟩ := exists_skipBlank text
  obtain ⟨after, blankAfter, splitBehind, _⟩ :=
    exists_skipBlank ((skipBlank text).dropWhile isWordChar)
  have run : IsRun isWordChar ((skipBlank text).takeWhile isWordChar) :=
    ⟨nonempty, List.all_eq_true.mp List.all_takeWhile⟩
  have word : skipBlank text =
      (skipBlank text).takeWhile isWordChar ++ (skipBlank text).dropWhile isWordChar :=
    List.takeWhile_append_dropWhile.symm
  rw [comma] at splitBehind
  refine ⟨_, .words blankBefore run blankAfter, more, ?_⟩
  calc '{' :: (before ++ ((skipBlank text).takeWhile isWordChar ++ (after ++ [',']))) ++ more
      = '{' :: (before ++ ((skipBlank text).takeWhile isWordChar ++ (after ++ ',' :: more))) := by
        simp
    _ = '{' :: (before ++ skipBlank text) := by rw [← splitBehind, ← word]
    _ = '{' :: text := by rw [← split]

theorem opensDirective_iff (input : List Char) :
    opensDirective input = true ↔ ∃ opening, DirectiveOpening opening ∧ opening <+: input := by
  constructor
  · intro found
    cases input with
    | nil => contradiction
    | cons c text =>
        simp only [opensDirective, Bool.and_eq_true, beq_iff_eq] at found
        obtain ⟨rfl, found⟩ := found
        exact exists_opening_of_word found
  · rintro ⟨opening, isOpening, more, rfl⟩
    cases isOpening with
    | words blankBefore run blankAfter =>
        simpa using opensDirective_of_run blankBefore run blankAfter

end Directives

section Tags

theorem isOpeningTagChar_iff {c : Char} :
    isOpeningTagChar c = true ↔ isWordChar c = true ∨ c = ':' ∨ c = '-' := by
  simp [isOpeningTagChar]

theorem isInsideTag_iff {c : Char} : (!isOutsideTag c) = true ↔ c ≠ '<' ∧ c ≠ '>' := by
  simp [isOutsideTag]

theorem endsTag_of_gap {gap : List Char} (between : TagGap gap) :
    endsTag (gap ++ '>' :: rest) = true := by
  cases between with
  | nothing => rfl
  | behindBlank isBlank inside =>
      have run := fun c member => isInsideTag_iff.mpr (inside c member)
      have finish : Stops (!isOutsideTag ·) ('>' :: rest) := stops_cons (by decide)
      simp [endsTag, isBlank, dropWhile_append_of_stops run finish, beginsWith]

theorem exists_gap_of_endsTag (found : endsTag text = true) :
    ∃ gap rest, TagGap gap ∧ text = gap ++ '>' :: rest := by
  cases text with
  | nil => contradiction
  | cons c more =>
      simp only [endsTag, Bool.or_eq_true, Bool.and_eq_true, beq_iff_eq, beginsWith_iff] at found
      rcases found with rfl | ⟨isBlank, rest, behind⟩
      · exact ⟨[], more, .nothing, rfl⟩
      · refine ⟨c :: more.takeWhile (!isOutsideTag ·), rest, .behindBlank isBlank ?_, ?_⟩
        · exact fun c member => isInsideTag_iff.mp (List.all_eq_true.mp List.all_takeWhile c member)
        · rw [List.cons_append, ← behind, List.takeWhile_append_dropWhile]

/-- The name of a tag stops before the gap and before the end of the tag. -/
theorem TagGap.stops {gap : List Char} (between : TagGap gap) :
    Stops isOpeningTagChar (gap ++ '>' :: rest) := by
  cases between with
  | nothing => exact stops_cons (by decide +kernel)
  | behindBlank isBlank _ => exact stops_cons (not_isOpeningTagChar_of_isBlank isBlank)

theorem exists_opening_of_name {first : Char} (letter : first.isAlpha = true)
    (ends : endsTag (text.dropWhile isOpeningTagChar) = true) :
    ∃ opening, TagOpening opening ∧ opening <+: '<' :: first :: text := by
  obtain ⟨gap, rest, between, split⟩ := exists_gap_of_endsTag ends
  have run : ∀ c ∈ text.takeWhile isOpeningTagChar, isWordChar c = true ∨ c = ':' ∨ c = '-' :=
    fun c member => isOpeningTagChar_iff.mp (List.all_eq_true.mp List.all_takeWhile c member)
  refine ⟨_, .named letter run between, rest, ?_⟩
  calc '<' :: first :: (text.takeWhile isOpeningTagChar ++ (gap ++ ['>'])) ++ rest
      = '<' :: first :: (text.takeWhile isOpeningTagChar ++ (gap ++ '>' :: rest)) := by simp
    _ = '<' :: first :: text := by rw [← split, List.takeWhile_append_dropWhile]

theorem opensTag_iff (input : List Char) :
    opensTag input = true ↔ ∃ opening, TagOpening opening ∧ opening <+: input := by
  constructor
  · intro found
    cases input with
    | nil => contradiction
    | cons c behind =>
        cases behind with
        | nil => contradiction
        | cons first text =>
            simp only [opensTag, Bool.and_eq_true, beq_iff_eq] at found
            obtain ⟨⟨rfl, letter⟩, ends⟩ := found
            exact exists_opening_of_name letter ends
  · rintro ⟨opening, isOpening, more, rfl⟩
    cases isOpening with
    | named letter run between =>
        have name := fun c member => isOpeningTagChar_iff.mpr (run c member)
        simp [opensTag, letter, dropWhile_append_of_stops name between.stops, endsTag_of_gap between]

end Tags

/-- The look finds something just if an opening is written somewhere in the pattern. -/
theorem needsReading_iff {pattern : String} : needsReading pattern = true ↔
    (∃ opening, DirectiveOpening opening ∧ opening <:+: pattern.toList) ∨
    (∃ opening, TagOpening opening ∧ opening <:+: pattern.toList) := by
  rw [needsReading, Bool.or_eq_true, anywhere_iff_infix opensDirective_iff,
    anywhere_iff_infix opensTag_iff]

/-- A pattern is worth reading just if an opening of a directive or of a tag is written somewhere
in it. It stays so with any text on both sides. -/
theorem look_finds_openings (pattern : String) :
    (needsReading pattern = true ↔
      (∃ opening, DirectiveOpening opening ∧ opening <:+: pattern.toList) ∨
      (∃ opening, TagOpening opening ∧ opening <:+: pattern.toList)) ∧
    (needsReading pattern = true →
      ∀ before after : String, needsReading (before ++ pattern ++ after) = true) := by
  refine ⟨needsReading_iff, fun found before after => ?_⟩
  have inside : pattern.toList <:+: (before ++ pattern ++ after).toList := by
    rw [String.toList_append, String.toList_append]
    exact List.infix_append _ _ _
  rw [needsReading_iff] at found ⊢
  rcases found with ⟨opening, isOpening, written⟩ | ⟨opening, isOpening, written⟩
  · exact Or.inl ⟨opening, isOpening, written.trans inside⟩
  · exact Or.inr ⟨opening, isOpening, written.trans inside⟩

/-- The look goes on behind a beginning that comes to nothing, and text that ends in such a
beginning hides nothing behind it. -/
theorem look_finds_second_start :
    needsReading "\x7ba \x7b b ," = true ∧ needsReading "<a <b c>" = true ∧
      needsReading ("<a " ++ "\x7ba \x7b b ," ++ ">\x7d") = true := by
  have directive : DirectiveOpening ['{', ' ', 'b', ' ', ','] :=
    @DirectiveOpening.words [' '] ['b'] [' '] (by decide) (by decide +kernel) (by decide)
  have tag : TagOpening ['<', 'b', ' ', 'c', '>'] :=
    @TagOpening.named 'b' [] [' ', 'c'] (by decide) (by simp) (.behindBlank (by decide) (by simp))
  obtain ⟨found, wider⟩ := look_finds_openings "\x7ba \x7b b ,"
  have second := found.mpr (Or.inl ⟨_, directive, "\x7ba ".toList, [], by decide⟩)
  have behindBracket := (look_finds_openings "<a <b c>").1.mpr
    (Or.inr ⟨_, tag, "<a ".toList, [], by decide⟩)
  exact ⟨second, behindBracket, wider second "<a " ">\x7d"⟩

end Parlance.Pattern
