namespace Parlance.Plural

/-! # Plural rules

A rule gives whole numbers a category. It tests the size of the number, or the rest of that
size after division by a power of ten. The first category with a test that holds is the
category of the number, and `other` is the category of all numbers without one.
-/

inductive Category where
  | zero | one | two | few | many | other
deriving Repr, DecidableEq, Inhabited

def Category.name : Category → String
  | zero => "zero"
  | one => "one"
  | two => "two"
  | few => "few"
  | many => "many"
  | other => "other"

inductive Kind where
  | cardinal
  | ordinal
deriving Repr, DecidableEq, Inhabited

/-- A test of a size: its rest after division by `modulus` lies in one of the ranges, or, if
`excluded`, in none of them. Division by zero leaves the size itself. -/
structure Test where
  modulus : Nat
  excluded : Bool
  ranges : List (Nat × Nat)
deriving Repr, DecidableEq

def Test.holds (test : Test) (size : Nat) : Bool :=
  let rest := size % test.modulus
  test.ranges.any (fun range => range.1 ≤ rest && rest ≤ range.2) != test.excluded

def sized (ranges : List (Nat × Nat)) : Test := ⟨0, false, ranges⟩

def notSized (ranges : List (Nat × Nat)) : Test := ⟨0, true, ranges⟩

/-- The last digits are in one of the ranges. -/
def ending (modulus : Nat) (ranges : List (Nat × Nat)) : Test := ⟨modulus, false, ranges⟩

/-- The last digits are in none of the ranges. -/
def notEnding (modulus : Nat) (ranges : List (Nat × Nat)) : Test := ⟨modulus, true, ranges⟩

/-- For each category the alternatives, each a list of tests that hold together. -/
abbrev Rule := List (Category × List (List Test))

def Rule.categoryOfSize : Rule → Nat → Category
  | [], _ => .other
  | (category, alternatives) :: rest, size =>
    if alternatives.any (·.all (·.holds size)) then category else categoryOfSize rest size

def Rule.category (rule : Rule) (number : Int) : Category :=
  rule.categoryOfSize number.natAbs

def findRule? (table : List (List String × Rule)) (language : String) : Option Rule :=
  (table.find? fun row => language ∈ row.1).map Prod.snd

end Parlance.Plural
