import Parlance.Engine
import Parlance.Proofs.Pattern.Completeness
import Parlance.Proofs.Pattern.OpeningSearch
import Parlance.Proofs.Pattern.Origins

namespace Parlance

open Parlance.Text

/-- A directive that a name alone in braces does not spell. -/
inductive Node.NeedsKind : Node → Prop
  | message : NeedsKind (.message argument kind branches)
  | format (typed : ¬ (kind = valueKind ∧ style = none)) : NeedsKind (.format argument kind style)

namespace Pattern

/-! # What a look at the openings sees

A pattern is looked through for openings before it is read. In an ASCII pattern the look finds
every directive with a kind that the reader finds, and every opening tag up to the first angle
bracket in a quoted value. Such a bracket it takes for the beginning of another tag.
-/

variable {kinds : DirectiveKinds} {input rest : List Char} {pattern : List Char}

theorem anywhere_of_suffix {here : List Char → Bool} (inside : input <:+ pattern)
    (found : here input = true) : anywhere here pattern = true := by
  obtain ⟨before, rfl⟩ := inside
  exact anywhere_iff.mpr ⟨before, input, rfl, found⟩

section Directives

variable {name kind : String} {behind : List Char}

theorem opensDirective_of_word (ascii : IsAscii input)
    (named : Word isNameChar input name (',' :: behind)) : opensDirective ('{' :: input) = true := by
  obtain ⟨before, written, after, blankBefore, run, blankAfter, rfl, _⟩ := named
  have word : IsRun isWordChar written := by
    refine ⟨run.1, fun c member => isWordChar_of_isNameChar (ascii c ?_) (run.2 c member)⟩
    simp [member]
  exact opensDirective_of_run blankBefore word blankAfter

theorem Lexeme.opensDirective_of_branching (ascii : IsAscii input)
    (lexeme : Lexeme kinds input (.branching name kind) rest) : opensDirective input = true := by
  cases lexeme with
  | branching named _ _ => exact opensDirective_of_word (ascii.of_suffix (List.suffix_cons _ _)) named

theorem Lexeme.opensDirective_of_argument {style : Option String} (ascii : IsAscii input)
    (lexeme : Lexeme kinds input (.argument name kind style) rest)
    (typed : ¬ (kind = valueKind ∧ style = none)) : opensDirective input = true := by
  cases lexeme with
  | value => exact absurd ⟨rfl, rfl⟩ typed
  | format named _ _ _ => exact opensDirective_of_word (ascii.of_suffix (List.suffix_cons _ _)) named

/-- The look finds a directive with a kind wherever one is written. -/
theorem IsWritten.opensDirective {node : Node} (written : IsWritten kinds pattern node)
    (ascii : IsAscii pattern) (needsKind : node.NeedsKind) :
    anywhere opensDirective pattern = true := by
  obtain ⟨token, ⟨input, rest, inside, lexeme⟩, writes⟩ := written
  have here := ascii.of_suffix inside
  apply anywhere_of_suffix inside
  cases writes with
  | format =>
      cases needsKind with
      | format typed => exact lexeme.opensDirective_of_argument here typed
  | count | message => exact lexeme.opensDirective_of_branching here
  | tag => cases needsKind

end Directives

section Tags

/-- No attribute has a value with an opening angle bracket in it. -/
def NoBracketIn (entries : List (String × Option String)) : Prop :=
  ∀ key value, (key, some value) ∈ entries → '<' ∉ value.toList

theorem NoBracketIn.tail {entry : String × Option String}
    {entries : List (String × Option String)} (plain : NoBracketIn (entry :: entries)) :
    NoBracketIn entries :=
  fun key value member => plain key value (List.mem_cons_of_mem _ member)

theorem bracket_not_mem_of_allBlank {text : List Char} (blank : AllBlank text) : '<' ∉ text :=
  fun member => absurd (blank '<' member) (by decide)

theorem bracket_not_mem_of_tagName {text : List Char} (run : ∀ c ∈ text, isTagChar c = true) :
    '<' ∉ text :=
  fun member => absurd (run '<' member) (by decide +kernel)

theorem AttributeValue.exists_written {text : String} (value : AttributeValue input text rest)
    (plain : '<' ∉ text.toList) : ∃ written, input = written ++ rest ∧ '<' ∉ written := by
  cases value with
  | @quoted quote value _ isQuote _ =>
      rw [String.toList_ofList] at plain
      have noQuote : '<' ≠ quote := by
        rintro rfl
        exact absurd isQuote (by decide)
      exact ⟨quote :: (value ++ [quote]), by simp, by simp [noQuote, plain]⟩
  | @unquoted value =>
      rw [String.toList_ofList] at plain
      exact ⟨value, rfl, plain⟩

/-- Attributes without the bracket in a value are written without it. -/
theorem Attributes.exists_written {entries : List (String × Option String)}
    (attributes : Attributes input entries rest) (plain : NoBracketIn entries) :
    ∃ written, input = written ++ rest ∧ '<' ∉ written := by
  induction attributes with
  | nil => exact ⟨[], rfl, List.not_mem_nil⟩
  | bare blanks run _ ih =>
      rename_i before name _ _ _ _
      obtain ⟨more, rfl, later⟩ := ih plain.tail
      refine ⟨before ++ (name ++ more), by simp only [List.append_assoc], ?_⟩
      simp only [List.mem_append, not_or]
      exact ⟨bracket_not_mem_of_allBlank blanks.2, bracket_not_mem_of_tagName run.2, later⟩
  | valued blanks run blankBefore blankAfter value _ ih =>
      rename_i before name left right _ _ _ _ _ _
      obtain ⟨more, rfl, later⟩ := ih plain.tail
      obtain ⟨written, rfl, inside⟩ := value.exists_written (plain _ _ List.mem_cons_self)
      refine ⟨before ++ (name ++ (left ++ '=' :: (right ++ (written ++ more)))), by simp, ?_⟩
      simp only [List.mem_append, List.mem_cons, not_or]
      exact ⟨bracket_not_mem_of_allBlank blanks.2, bracket_not_mem_of_tagName run.2,
        bracket_not_mem_of_allBlank blankBefore, by decide,
        bracket_not_mem_of_allBlank blankAfter, inside, later⟩

theorem beginsWith_bracket {text : List Char} (plain : '<' ∉ text) :
    beginsWith '>' ((text ++ '>' :: rest).dropWhile (!isOutsideTag ·)) = true := by
  induction text with
  | nil => rfl
  | cons c more ih =>
      obtain ⟨here, later⟩ := not_or.mp (mt List.mem_cons.mpr plain)
      by_cases closing : c = '>'
      · subst closing
        rfl
      · have inside : isOutsideTag c = false := by
          simp [isOutsideTag, closing, Ne.symm here]
        simpa [inside] using ih later

/-- A tag ends for the look where no opening bracket stands in front of its end. -/
theorem endsTag_of_bracket {text : List Char} (plain : '<' ∉ text)
    (head : ∀ c ∈ (text ++ '>' :: rest).head?, isBlank c = true ∨ c = '>') :
    endsTag (text ++ '>' :: rest) = true := by
  cases text with
  | nil => rfl
  | cons c more =>
      have later : '<' ∉ more := mt (List.mem_cons_of_mem c) plain
      simp only [List.cons_append, endsTag, beginsWith_bracket later, Bool.and_true,
        Bool.or_eq_true, beq_iff_eq]
      exact (head c rfl).symm

theorem opensTag_of_attributes {first : Char} {more behind blanks : List Char}
    {entries : List (String × Option String)} (ascii : IsAscii more)
    (letter : first.isAlpha = true) (name : ∀ c ∈ more, isTagChar c = true)
    (attributes : Attributes behind entries (blanks ++ '>' :: rest)) (blank : AllBlank blanks)
    (plain : NoBracketIn entries) : opensTag ('<' :: first :: (more ++ behind)) = true := by
  have ends : EndsTag (blanks ++ '>' :: rest) := ⟨blanks, rest, blank, rfl⟩
  have opening : ∀ c ∈ more, isOpeningTagChar c = true :=
    fun c member => isOpeningTagChar_of_isTagChar (ascii c member) (name c member)
  have finish : Stops isOpeningTagChar behind :=
    attributes.stops ends not_isOpeningTagChar_of_isBlank (by decide +kernel)
  have head := attributes.head ends
  obtain ⟨written, rfl, noBracket⟩ := attributes.exists_written plain
  have closed : endsTag (written ++ (blanks ++ '>' :: rest)) = true := by
    rw [← List.append_assoc] at head ⊢
    refine endsTag_of_bracket ?_ head
    simp only [List.mem_append, not_or]
    exact ⟨noBracket, bracket_not_mem_of_allBlank blank⟩
  simp [opensTag, letter, dropWhile_append_of_stops opening finish, closed]

/-- An opening tag of the name stands in the pattern, with the attributes as they are written. -/
def OpeningTagStands (pattern : List Char) (name : String)
    (entries : List (String × Option String)) : Prop :=
  ∃ behind closing, '<' :: (name.toList ++ behind) <:+ pattern ∧
    Attributes behind entries closing ∧ EndsTag closing

/-- The look finds a tag that is written, unless it has the bracket in the value of an attribute. -/
theorem IsWritten.opensTag {name : String} {attributes : List (String × Option String)}
    {children : List Node} (written : IsWritten kinds pattern (.tag name attributes children))
    (ascii : IsAscii pattern) :
    anywhere opensTag pattern = true ∨
      ∃ entries, OpeningTagStands pattern name entries ∧ Keyed.ofList entries = attributes ∧
        ¬ NoBracketIn entries := by
  obtain ⟨token, ⟨input, rest, inside, lexeme⟩, writes⟩ := written
  cases writes with
  | tag =>
      cases lexeme with
      | tag letter named attributes blank =>
          rename_i more behind entries blanks first
          by_cases plain : NoBracketIn entries
          · have asciiName : IsAscii more :=
              fun c member => ascii c (inside.subset (by simp [member]))
            exact Or.inl (anywhere_of_suffix inside
              (opensTag_of_attributes asciiName letter named attributes blank plain))
          · refine Or.inr ⟨entries, ⟨behind, _, ?_, attributes, blanks, rest, blank, rfl⟩, rfl, plain⟩
            simpa using inside

end Tags

section Marks

/-- Text in front of a pattern makes no difference to whether it is read. -/
theorem parse_behind_text {text : List Char} {nodes : List Node} (ordinary : IsRun isOrdinary text)
    (read : run kinds none ⟨[], []⟩ (text ++ rest) = .ok (nodes, [])) :
    ∃ message, parse kinds (String.ofList rest) = .ok message := by
  rw [run_text ordinary] at read
  obtain ⟨pieces, written, _⟩ := exists_pieces_of_run read
  exact ⟨_, parse_of_spells ⟨pieces, by rwa [String.toList_ofList], rfl⟩⟩

theorem parse_of_unmarked {pattern source : String} {nodes : List Node}
    (marked : unmarked? pattern = some source) (read : parse kinds pattern = .ok nodes) :
    ∃ message, parse kinds source = .ok message := by
  unfold unmarked? at marked
  split at marked
  · rename_i begins
    cases marked
    have whole : forceMark ++ pattern.toList.drop forceMark.length = pattern.toList :=
      List.prefix_iff_eq_append.mp (List.isPrefixOf_iff_prefix.mp begins)
    have read := run_of_parse read
    rw [← whole] at read
    exact parse_behind_text (by decide) read
  · contradiction

end Marks

end Pattern

namespace Engine

open Pattern

/-- An engine compiles a pattern that has openings and is read. -/
theorem exists_compiled {engine : Engine} {pattern : String} {nodes : List Node}
    (read : Pattern.parse engine.registry.directiveKinds pattern = .ok nodes)
    (needed : needsReading pattern = true) : ∃ compiled, engine.parse pattern = compile compiled := by
  cases marked : unmarked? pattern with
  | none =>
      refine ⟨nodes, ?_⟩
      simp only [Engine.parse, sourceOf?, marked, needed, if_true, readNodes, read, Except.mapError]
  | some source =>
      obtain ⟨message, unmarked⟩ := parse_of_unmarked marked read
      refine ⟨message, ?_⟩
      simp only [Engine.parse, sourceOf?, marked, readNodes, unmarked, Except.mapError]

end Engine

namespace Pattern

/-- An ASCII pattern that is read as a message with a directive of some kind is looked at as one
with an opening, so an engine compiles it. -/
theorem needsReading_of_directive {pattern : String} {nodes : List Node} {node : Node}
    (ascii : IsAscii pattern.toList) (read : parse kinds pattern = .ok nodes)
    (member : node ∈ Node.constructs nodes) (needsKind : node.NeedsKind) :
    needsReading pattern = true ∧
      ∀ engine : Engine, engine.registry.directiveKinds = kinds →
        ∃ compiled, engine.parse pattern = Engine.compile compiled := by
  have needed : needsReading pattern = true := by
    rw [needsReading, (isWritten_of_parse read member).opensDirective ascii needsKind, Bool.true_or]
  refine ⟨needed, ?_⟩
  rintro engine rfl
  exact Engine.exists_compiled read needed

theorem needsReading_number_sign :
    let kinds : DirectiveKinds := ⟨(· == "plural"), (· == "plural")⟩
    let pattern := "<b a='<'>\x7b n , plural, other \x7b#\x7d\x7d</b>"
    let count : Node := .format "n" "count" none
    count.NeedsKind ∧ needsReading pattern = true ∧
      ∀ engine : Engine, engine.registry.directiveKinds = kinds →
        ∃ compiled, engine.parse pattern = Engine.compile compiled := by
  intro kinds pattern count
  have needsKind : count.NeedsKind := .format (by decide)
  have read : parse kinds pattern = .ok [.tag "b" [("a", some "<")]
      [.message "n" "plural" [("other", [.format "n" "count" none])]]] := by
    decide +kernel
  exact ⟨needsKind, needsReading_of_directive (by decide) read (by decide +kernel) needsKind⟩

/-- An ASCII pattern that is read as a message with a tag is looked at as one with an opening, so
an engine compiles it, unless the tag is written with an opening angle bracket in the value of
an attribute. -/
theorem needsReading_of_tag {pattern : String} {nodes : List Node} {name : String}
    {attributes : List (String × Option String)} {children : List Node}
    (ascii : IsAscii pattern.toList) (read : parse kinds pattern = .ok nodes)
    (member : .tag name attributes children ∈ Node.constructs nodes) :
    (needsReading pattern = true ∧
      ∀ engine : Engine, engine.registry.directiveKinds = kinds →
        ∃ compiled, engine.parse pattern = Engine.compile compiled) ∨
    ∃ entries, OpeningTagStands pattern.toList name entries ∧ Keyed.ofList entries = attributes ∧
      ∃ key value, (key, some value) ∈ entries ∧ '<' ∈ value.toList := by
  rcases (isWritten_of_parse read member).opensTag ascii with found | ⟨entries, stands, kept, bracket⟩
  · have needed : needsReading pattern = true := by
      rw [needsReading, found, Bool.or_true]
    refine Or.inl ⟨needed, ?_⟩
    rintro engine rfl
    exact Engine.exists_compiled read needed
  · refine Or.inr ⟨entries, stands, kept, ?_⟩
    simpa [NoBracketIn] using bracket

theorem needsReading_link :
    let kinds  := Format.Registry.builtin.directiveKinds
    let pattern := "1 < 2 <a href=\"/x\" hidden>\x7bn\x7d</a>"
    let attributes := [("hidden", none), ("href", some "/x")]
    parse kinds pattern =
        .ok [.text "1 < 2 ", .tag "a" attributes [.format "n" "value" none]] ∧
      ((needsReading pattern = true ∧
        ∀ engine : Engine, engine.registry.directiveKinds = kinds →
          ∃ compiled, engine.parse pattern = Engine.compile compiled) ∨
      ∃ entries, OpeningTagStands pattern.toList "a" entries ∧ Keyed.ofList entries = attributes ∧
        ∃ key value, (key, some value) ∈ entries ∧ '<' ∈ value.toList) := by
  intro kinds pattern attributes
  have read : parse kinds pattern =
      .ok [.text "1 < 2 ", .tag "a" attributes [.format "n" "value" none]] := by
    decide +kernel
  have member : .tag "a" attributes [.format "n" "value" none] ∈ Node.constructs
      [.text "1 < 2 ", .tag "a" attributes [.format "n" "value" none]] := by
    decide +kernel
  exact ⟨read, needsReading_of_tag (by decide) read member⟩

/-- A quoted value may hold any character but its quote, but the look takes an opening bracket in
it for the beginning of another tag. The tag is shown as it is written. -/
theorem needsReading_misses_quoted_bracket :
    let pattern := "<a b=\"<\">x</a>"
    IsAscii pattern.toList ∧
      parse Format.Registry.builtin.directiveKinds pattern =
        .ok [.tag "a" [("b", some "<")] [.text "x"]] ∧
      needsReading pattern = false ∧
      ({} : Engine).parse pattern = .ok (.plain pattern) := by
  intro pattern
  have overlooked : needsReading pattern = false := by
    decide +kernel
  have unmarked : unmarked? pattern = none := by
    decide +kernel
  refine ⟨by decide, by decide +kernel, overlooked, ?_⟩
  simp only [Engine.parse, Engine.sourceOf?, unmarked, overlooked, Bool.false_eq_true, if_false]

end Pattern

end Parlance
