import Parlance.Plural.Language

namespace Parlance.Plural

open Parlance.Locale

/-! # Overrides of plural rules

A table of overrides gives locales rules of their own. It looks for the code of a locale,
then for its language alone, and then asks its fallback. Codes are compared without regard
to case, to the sort of hyphen, and to blanks around them.
-/

/-- A way to find the category of a number in a locale. Categories are words of any sort. -/
abbrev Categories := String → Kind → Int → String

def knownCategories : Categories :=
  fun code kind number => (category code kind number).name

structure Overrides where
  entries : List ((List Char × Kind) × (Int → String))
  fallback : Categories

namespace Overrides

def empty (fallback : Categories) : Overrides := ⟨[], fallback⟩

def key (code : String) : List Char :=
  (normalized code).map Char.toLower

/-- Adds a rule. It hides an earlier rule for the same code and kind. -/
def insert (overrides : Overrides) (code : String) (kind : Kind) (rule : Int → String) :
    Overrides :=
  { overrides with entries := ((key code, kind), rule) :: overrides.entries }

def findKey? (overrides : Overrides) (key : List Char) (kind : Kind) : Option (Int → String) :=
  (overrides.entries.find? fun entry => entry.1 = (key, kind)).map Prod.snd

/-- The rule for a code, or else for its part before the first hyphen. -/
def find? (overrides : Overrides) (code : String) (kind : Kind) : Option (Int → String) :=
  (overrides.findKey? (key code) kind).or
    (overrides.findKey? ((key code).takeWhile (· != '-')) kind)

def category (overrides : Overrides) : Categories := fun code kind number =>
  match overrides.find? code kind with
  | some rule => rule number
  | none => overrides.fallback code kind number

end Overrides

end Parlance.Plural
