import Parlance.Format.Directive
import Parlance.Pattern.Token

namespace Parlance.Format

/-! # Formatters and their registry

A formatter turns the directives of one kind into text, or into nodes that are rendered in
their place. A registry keeps the formatters by kind, and tells the reader of patterns which
kinds have branches.
-/

inductive Formatted where
  | text (value : String)
  | nodes (nodes : List Node)
deriving Repr, DecidableEq

structure Formatter where
  /-- Directives of the formatter have branches. -/
  isBranching : Bool
  /-- The number sign in the branches stands for the argument. -/
  isCounting : Bool
  format : Context → Directive → Arguments → Except Error Formatted

namespace Formatter

/-- A formatter of text, for directives without branches. -/
def ofText (write : Context → Directive → Arguments → Except Error String) : Formatter where
  isBranching := false
  isCounting := false
  format context directive arguments := (write context directive arguments).map .text

/-- A formatter that goes on with nodes made of the branches of a directive. -/
def ofBranches (isCounting : Bool)
    (choose : Context → Directive → List (String × List Node) → Arguments →
      Except Error (List Node)) : Formatter where
  isBranching := true
  isCounting := isCounting
  format context directive arguments :=
    match directive.branches with
    | .error error => .error error
    | .ok branches => (choose context directive branches arguments).map .nodes

end Formatter

abbrev Registry := List (String × Formatter)

namespace Registry

def empty : Registry := []

def register (registry : Registry) (kind : String) (formatter : Formatter) : Registry :=
  Keyed.insert registry kind formatter

def find? (registry : Registry) (kind : String) : Option Formatter :=
  Keyed.find? registry kind

def isBranching (registry : Registry) (kind : String) : Bool :=
  (registry.find? kind).any Formatter.isBranching

def isCounting (registry : Registry) (kind : String) : Bool :=
  (registry.find? kind).any Formatter.isCounting

/-- What the reader of patterns has to know of the kinds. -/
def directiveKinds (registry : Registry) : Pattern.DirectiveKinds where
  isBranching := registry.isBranching
  isCounting := registry.isCounting

end Registry

end Parlance.Format
