import Parlance.Markup.Html
import Parlance.Proofs.Format.Builtin
import Parlance.Proofs.Pattern.Origins
import Parlance.Proofs.Pattern.Spelling

namespace Parlance.Markup

open Parlance.Pattern

/-! # Markup that is read back

The markup around the children of a tag is the pattern that is printed for the tag with escaped
values and without children. So nothing in a value ends the value or the tag, and the value can be
recovered from its escaped form.
-/

/-- The text with entities as the characters that they stand for, from left to right. -/
def unescapeChars : List Char → List Char
  | '&' :: 'a' :: 'm' :: 'p' :: ';' :: rest => '&' :: unescapeChars rest
  | '&' :: 'q' :: 'u' :: 'o' :: 't' :: ';' :: rest => '"' :: unescapeChars rest
  | '&' :: 'l' :: 't' :: ';' :: rest => '<' :: unescapeChars rest
  | '&' :: 'g' :: 't' :: ';' :: rest => '>' :: unescapeChars rest
  | c :: rest => c :: unescapeChars rest
  | [] => []

def unescapeAttribute (value : String) : String :=
  String.ofList (unescapeChars value.toList)

/-- A tag that a pattern can spell, but for its values: these may be any texts. -/
structure Element.WellFormed (element : Element) : Prop where
  named : IsTagName element.name
  sorted : Keyed.Sorted element.attributes
  attributes : ∀ entry ∈ element.attributes, IsRun isTagChar entry.1.toList

section Entities

theorem unescapeChars_cons {c : Char} (plain : c ≠ '&') (rest : List Char) :
    unescapeChars (c :: rest) = c :: unescapeChars rest := by
  rw [unescapeChars]
  all_goals exact fun _ here _ => absurd here plain

theorem unescapeChars_escapeChar (c : Char) (rest : List Char) :
    unescapeChars (escapeChar c ++ rest) = c :: unescapeChars rest := by
  unfold escapeChar
  split
  · rename_i ampersand
    subst ampersand
    rfl
  rename_i plain
  split
  · rename_i quote
    subst quote
    rfl
  split
  · rename_i opened
    subst opened
    rfl
  split
  · rename_i closed
    subst closed
    rfl
  · exact unescapeChars_cons plain rest

theorem unescapeChars_flatMap (text : List Char) :
    unescapeChars (text.flatMap escapeChar) = text := by
  induction text with
  | nil => rfl
  | cons c rest ih => rw [List.flatMap_cons, unescapeChars_escapeChar, ih]

theorem unescapeAttribute_escapeAttribute (value : String) :
    unescapeAttribute (escapeAttribute value) = value := by
  rw [unescapeAttribute, escapeAttribute, String.toList_ofList, unescapeChars_flatMap,
    String.ofList_toList]

theorem quote_not_mem_escapeChar (c : Char) : '"' ∉ escapeChar c := by
  unfold escapeChar
  split
  · decide
  split
  · decide
  rename_i noQuote
  split
  · decide
  split
  · decide
  · exact fun member => noQuote (List.mem_singleton.mp member).symm

theorem quote_not_mem_escapeAttribute (value : String) : '"' ∉ (escapeAttribute value).toList := by
  rw [escapeAttribute, String.toList_ofList, List.mem_flatMap]
  rintro ⟨c, _, inside⟩
  exact quote_not_mem_escapeChar c inside

end Entities

/-- The attributes of a tag with escaped values. -/
def escapedAttributes (attributes : List (String × Option String)) :
    List (String × Option String) :=
  Keyed.mapValues (Option.map escapeAttribute) attributes

/-- Attributes are written as they are printed for a pattern. -/
theorem toList_attributeText (entry : String × Option String) :
    (attributeText entry).toList =
      ' ' :: (entry.1.toList ++ printValue (entry.2.map escapeAttribute)) := by
  obtain ⟨name, value⟩ := entry
  cases value with
  | none => simp [attributeText, printValue]
  | some value =>
      simp [attributeText, printValue, quote_not_mem_escapeAttribute]

theorem flatMap_attributeText (attributes : List (String × Option String)) :
    attributes.flatMap (fun entry => (attributeText entry).toList) =
      printAttributes (escapedAttributes attributes) := by
  induction attributes with
  | nil => rfl
  | cons entry rest ih =>
      rw [List.flatMap_cons, ih, toList_attributeText, List.cons_append, List.append_assoc]
      rfl

theorem markup_eq_print (kinds : DirectiveKinds) (element : Element) :
    openingTag element ++ closingTag element =
      print kinds [.tag element.name (escapedAttributes element.attributes) []] := by
  apply String.toList_inj.mp
  simp [openingTag, closingTag, print, printMessage, printNode, List.flatMap_map,
    flatMap_attributeText]

theorem sorted_escapedAttributes {attributes : List (String × Option String)}
    (sorted : Keyed.Sorted attributes) : Keyed.Sorted (escapedAttributes attributes) :=
  List.pairwise_map.mpr sorted

theorem isAttribute_of_escaped {attributes : List (String × Option String)}
    (named : ∀ entry ∈ attributes, IsRun isTagChar entry.1.toList) :
    ∀ entry ∈ escapedAttributes attributes, IsAttribute entry := by
  intro entry member
  obtain ⟨written, present, rfl⟩ := List.mem_map.mp member
  refine ⟨named written present, fun value escaped => Or.inl ?_⟩
  obtain ⟨raw, _, rfl⟩ := Option.map_eq_some_iff.mp escaped
  exact quote_not_mem_escapeAttribute raw

/-- With escaped values a tag can be printed whatever its values were. -/
theorem Element.WellFormed.printed {element : Element} (wellFormed : element.WellFormed)
    (kinds : DirectiveKinds) :
    Pattern.WellFormed kinds none
      [.tag element.name (escapedAttributes element.attributes) []] :=
  .cons (.tag wellFormed.named (sorted_escapedAttributes wellFormed.sorted)
    (isAttribute_of_escaped wellFormed.attributes) .nil) (fun text => nomatch text) .nil

section Origins

theorem Attributes.names {input rest : List Char} {entries : List (String × Option String)}
    (attributes : Attributes input entries rest) :
    ∀ entry ∈ entries, IsRun isTagChar entry.1.toList := by
  induction attributes with
  | nil => exact fun entry member => absurd member List.not_mem_nil
  | bare _ name _ ih =>
      refine List.forall_mem_cons.mpr ⟨?_, ih⟩
      rwa [String.toList_ofList]
  | valued _ name _ _ _ _ ih =>
      refine List.forall_mem_cons.mpr ⟨?_, ih⟩
      rwa [String.toList_ofList]

/-- The tags of a message that is read are well formed. -/
theorem wellFormed_of_parse {kinds : DirectiveKinds} {pattern name : String}
    {nodes children : List Node} {attributes : List (String × Option String)}
    (read : parse kinds pattern = .ok nodes)
    (member : .tag name attributes children ∈ Node.constructs nodes) :
    Element.WellFormed ⟨name, attributes, children⟩ := by
  obtain ⟨token, ⟨input, rest, _, lexeme⟩, writes⟩ := isWritten_of_parse read member
  cases writes
  cases lexeme with
  | tag letter named written =>
      refine ⟨⟨_, _, rfl, letter, named⟩, Keyed.sorted_ofList _, fun entry inside => ?_⟩
      exact Attributes.names written entry (Keyed.mem_of_mem_ofList inside)

end Origins

/-- The markup of a tag is read as that tag, with escaped values and nothing inside it. No value is
lost by escaping. -/
theorem html_reads_back (context : Format.Context) {element : Element}
    (wellFormed : element.WellFormed) (arguments : Arguments) :
    ∃ wrapping, TagFormatter.html.wrap context element arguments = .ok wrapping ∧
      (∀ kinds, parse kinds (wrapping.opening ++ wrapping.closing) =
        .ok [.tag element.name (Keyed.mapValues (Option.map escapeAttribute) element.attributes)
          []]) ∧
      (∀ value, unescapeAttribute (escapeAttribute value) = value) ∧
      Function.Injective escapeAttribute := by
  refine ⟨_, rfl, fun kinds => ?_, unescapeAttribute_escapeAttribute, ?_⟩
  · rw [markup_eq_print kinds]
    exact parse_of_spells (spells_print (wellFormed.printed kinds))
  · exact Function.LeftInverse.injective unescapeAttribute_escapeAttribute

section Example

/-- A tag with a value that tries to end itself and the tag. -/
def hostileTag : Element where
  name := "a"
  attributes := [("hidden", none), ("title", some "\"><b x='&quot;'>")]
  children := [.text "x"]

theorem hostileTag_wellFormed : hostileTag.WellFormed where
  named := ⟨'a', [], by decide, by decide, by simp⟩
  sorted := by decide
  attributes := by decide +kernel

theorem hostileTag_reads_back :
    hostileTag.WellFormed ∧
      ∃ wrapping, TagFormatter.html.wrap ⟨"en", none, fun _ _ _ => otherKey⟩ hostileTag [] =
          .ok wrapping ∧
        parse ⟨fun _ => true, fun _ => true⟩ (wrapping.opening ++ wrapping.closing) =
          .ok [.tag "a" [("hidden", none), ("title", some "&quot;&gt;&lt;b x='&amp;quot;'&gt;")]
            []] := by
  have escaped : Keyed.mapValues (Option.map escapeAttribute) hostileTag.attributes =
      [("hidden", none), ("title", some "&quot;&gt;&lt;b x='&amp;quot;'&gt;")] := by
    decide +kernel
  obtain ⟨wrapping, wrapped, read, _⟩ :=
    html_reads_back ⟨"en", none, fun _ _ _ => otherKey⟩ hostileTag_wellFormed []
  refine ⟨hostileTag_wellFormed, wrapping, wrapped, ?_⟩
  rw [read, escaped]
  rfl

end Example

end Parlance.Markup
