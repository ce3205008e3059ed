import Parlance.Text.Blank
import Parlance.Text.CharClass

namespace Parlance.Pattern

open Parlance.Text

/-! # Openings in a pattern

Most patterns are plain text. A pattern is worth reading if it has an opening of a directive
with a kind, or of a tag, at some place. A mark at the beginning asks for reading in any
case.
-/

/-- The mark in front of a pattern that has to be read. -/
def forceMark : List Char := ['i', 'c', 'u', ':']

/-- The pattern behind its mark, if it has the mark. -/
def unmarked? (pattern : String) : Option String :=
  if forceMark.isPrefixOf pattern.toList then
    some (String.ofList (pattern.toList.drop forceMark.length))
  else none

/-- Whether some end of the text satisfies a condition. -/
def anywhere (here : List Char → Bool) : List Char → Bool
  | [] => here []
  | c :: rest => here (c :: rest) || anywhere here rest

def beginsWith (c : Char) : List Char → Bool
  | found :: _ => found == c
  | [] => false

/-- A word, with blanks around it, and a comma. -/
def beginsWithWordAndComma (text : List Char) : Bool :=
  let word := skipBlank text
  !(word.takeWhile isWordChar).isEmpty &&
    beginsWith ',' (skipBlank (word.dropWhile isWordChar))

def opensDirective : List Char → Bool
  | c :: rest => c == '{' && beginsWithWordAndComma rest
  | [] => false

def isOpeningTagChar (c : Char) : Bool :=
  isWordChar c || c ∈ [':', '-']

def isOutsideTag (c : Char) : Bool :=
  c ∈ ['<', '>']

/-- A closing bracket, or a blank and a closing bracket before any other bracket. -/
def endsTag : List Char → Bool
  | c :: rest =>
    c == '>' || isBlank c && beginsWith '>' (rest.dropWhile (!isOutsideTag ·))
  | [] => false

/-- An angle bracket, and then a name that begins with a letter and the end of a tag. -/
def opensTag : List Char → Bool
  | c :: letter :: rest =>
    c == '<' && letter.isAlpha && endsTag (rest.dropWhile isOpeningTagChar)
  | _ => false

def needsReading (pattern : String) : Bool :=
  anywhere opensDirective pattern.toList || anywhere opensTag pattern.toList

theorem anywhere_iff {here : List Char → Bool} {text : List Char} :
    anywhere here text = true ↔ ∃ before rest, text = before ++ rest ∧ here rest = true := by
  induction text with
  | nil =>
      constructor
      · exact fun found => ⟨[], [], rfl, found⟩
      · rintro ⟨before, rest, empty, found⟩
        obtain ⟨_, rfl⟩ := List.append_eq_nil_iff.mp empty.symm
        exact found
  | cons c tail ih =>
      simp only [anywhere, Bool.or_eq_true, ih]
      constructor
      · rintro (found | ⟨before, rest, rfl, found⟩)
        · exact ⟨[], c :: tail, rfl, found⟩
        · exact ⟨c :: before, rest, rfl, found⟩
      · rintro ⟨before, rest, split, found⟩
        cases before with
        | nil => exact Or.inl (split ▸ found)
        | cons first more =>
            rw [List.cons_append, List.cons.injEq] at split
            exact Or.inr ⟨more, rest, split.2, found⟩

end Parlance.Pattern
