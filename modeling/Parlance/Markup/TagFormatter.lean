import Parlance.Format.Directive

namespace Parlance.Markup

open Parlance.Format

/-! # Formatters of tags

A tag formatter gives the text before and after the children of a tag, and the children to
render between them.
-/

/-- A tag with its attributes in key order and the message inside it. -/
structure Element where
  name : String
  attributes : List (String × Option String)
  children : List Node
deriving Repr, DecidableEq

structure Wrapping where
  opening : String
  children : List Node
  closing : String
deriving Repr, DecidableEq

structure TagFormatter where
  wrap : Context → Element → Arguments → Except Error Wrapping

/-- A formatter that keeps all children of every tag between two texts. -/
def TagFormatter.around (texts : Element → String × String) : TagFormatter where
  wrap _ element _ := .ok ⟨(texts element).1, element.children, (texts element).2⟩

end Parlance.Markup
