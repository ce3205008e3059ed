import Parlance.Markup.TagFormatter

namespace Parlance.Markup

/-! # Tags as markup of hypertext

Tags stay as they are. Attributes stand in key order, and the characters of a value that
could end the value or the tag are written as entities.
-/

def escapeChar (c : Char) : List Char :=
  if c = '&' then "&amp;".toList
  else if c = '"' then "&quot;".toList
  else if c = '<' then "&lt;".toList
  else if c = '>' then "&gt;".toList
  else [c]

def escapeAttribute (value : String) : String :=
  String.ofList (value.toList.flatMap escapeChar)

/-- An attribute with a blank before it. One without a value stays bare. -/
def attributeText : String × Option String → String
  | (name, none) => " " ++ name
  | (name, some value) => " " ++ name ++ "=\"" ++ escapeAttribute value ++ "\""

def openingTag (element : Element) : String :=
  "<" ++ element.name ++ String.join (element.attributes.map attributeText) ++ ">"

def closingTag (element : Element) : String :=
  "</" ++ element.name ++ ">"

def TagFormatter.html : TagFormatter :=
  .around fun element => (openingTag element, closingTag element)

end Parlance.Markup
