import Parlance.Markup.TagFormatter

namespace Parlance.Markup

/-! # Tags as marks of plain text

Tags for emphasis, deletion and code become pairs of marks, and a link with an address
becomes brackets. Of all other tags only the children are left.
-/

def lowerName (element : Element) : String :=
  element.name.map Char.toLower

def linkMarks (address : String) : String × String :=
  ("[", "](" ++ address ++ ")")

def address? (element : Element) : Option String :=
  (Keyed.find? element.attributes "href").join

def marksOf (element : Element) : String × String :=
  let name := lowerName element
  if name ∈ ["b", "strong"] then ("**", "**")
  else if name ∈ ["i", "em"] then ("_", "_")
  else if name ∈ ["s", "del", "strike"] then ("~~", "~~")
  else if name = "code" then ("`", "`")
  else if name = "a" then ((address? element).map linkMarks).getD ("", "")
  else ("", "")

def TagFormatter.markdown : TagFormatter := .around marksOf

end Parlance.Markup
