import Parlance.Pattern.Node
import Parlance.Text.Quoted

namespace Parlance.Node

open Parlance.Text

/-! # Messages for inspection

Nodes are shown with all their parts by name. Texts are quoted, a missing part is `None`,
and entries stand in braces behind their keys.
-/

def inspectItems (items : List String) : String :=
  "[" ++ ", ".intercalate items ++ "]"

def inspectEntries (entries : List (String × String)) : String :=
  "\x7b" ++ ", ".intercalate (entries.map fun entry => quoted entry.1 ++ ": " ++ entry.2) ++
    "\x7d"

def inspectField (name shown : String) : String :=
  name ++ ": " ++ shown

def inspectRecord (name : String) (fields : List String) : String :=
  name ++ " \x7b " ++ ", ".intercalate fields ++ " \x7d"

def inspectOption : Option String → String
  | some value => "Some(" ++ quoted value ++ ")"
  | none => "None"

mutual

def inspect : Node → String
  | text value => "Text(" ++ quoted value ++ ")"
  | format argument kind style =>
    "Format(" ++ inspectRecord "FormatNode" [inspectField "arg_name" (quoted argument),
      inspectField "kind" (quoted kind), inspectField "style" (inspectOption style)] ++ ")"
  | message argument kind branches =>
    "Message(" ++ inspectRecord "MessageNode" [inspectField "arg_name" (quoted argument),
      inspectField "kind" (quoted kind),
      inspectField "selectors" (inspectEntries (inspectBranches branches))] ++ ")"
  | tag name attributes children =>
    "Tag(" ++ inspectRecord "TagNode" [inspectField "tag" (quoted name),
      inspectField "attributes"
        (inspectEntries (attributes.map fun entry => (entry.1, inspectOption entry.2))),
      inspectField "children" (inspectItems (inspectEach children))] ++ ")"

def inspectEach : List Node → List String
  | [] => []
  | node :: rest => node.inspect :: inspectEach rest

def inspectBranches : List (String × List Node) → List (String × String)
  | [] => []
  | (key, nodes) :: rest => (key, inspectItems (inspectEach nodes)) :: inspectBranches rest

end

def inspectList (nodes : List Node) : String :=
  inspectItems (inspectEach nodes)

end Parlance.Node
