namespace Parlance

/-! # Messages

A message is a list of nodes: literal text, directives that format one argument, directives
that choose one of several messages, and tags around a message. Branches and attributes
stand in key order.
-/

inductive Node where
  | text (value : String)
  | format (argument kind : String) (style : Option String)
  | message (argument kind : String) (branches : List (String × List Node))
  | tag (name : String) (attributes : List (String × Option String)) (children : List Node)
deriving Repr, Inhabited

/-- The kind of a directive that names an argument and no kind. -/
def valueKind : String := "value"

/-- The kind of the directive that a number sign stands for. -/
def countKind : String := "count"

/-- The branch that stands in for all others. -/
def otherKey : String := "other"

namespace Node

mutual

def decideEq : (first second : Node) → Decidable (first = second)
  | text first, text second =>
    decidable_of_iff (first = second) (by simp)
  | format argument kind style, format argument' kind' style' =>
    decidable_of_iff (argument = argument' ∧ kind = kind' ∧ style = style') (by simp)
  | message argument kind branches, message argument' kind' branches' =>
    match decideBranches branches branches' with
    | isTrue same => decidable_of_iff (argument = argument' ∧ kind = kind') (by simp [same])
    | isFalse different => isFalse (by simp [different])
  | tag name attributes children, tag name' attributes' children' =>
    match decideList children children' with
    | isTrue same =>
      decidable_of_iff (name = name' ∧ attributes = attributes') (by simp [same])
    | isFalse different => isFalse (by simp [different])
  | text _, format .. | text _, message .. | text _, tag .. => isFalse (by simp)
  | format .., text _ | format .., message .. | format .., tag .. => isFalse (by simp)
  | message .., text _ | message .., format .. | message .., tag .. => isFalse (by simp)
  | tag .., text _ | tag .., format .. | tag .., message .. => isFalse (by simp)

def decideList : (first second : List Node) → Decidable (first = second)
  | [], [] => isTrue rfl
  | [], _ :: _ | _ :: _, [] => isFalse (by simp)
  | node :: rest, node' :: rest' =>
    match decideEq node node', decideList rest rest' with
    | isTrue same, isTrue sameRest => isTrue (by simp [same, sameRest])
    | isFalse different, _ => isFalse (by simp [different])
    | _, isFalse different => isFalse (by simp [different])

def decideBranches : (first second : List (String × List Node)) → Decidable (first = second)
  | [], [] => isTrue rfl
  | [], _ :: _ | _ :: _, [] => isFalse (by simp)
  | (key, nodes) :: rest, (key', nodes') :: rest' =>
    match decideList nodes nodes', decideBranches rest rest' with
    | isTrue same, isTrue sameRest => decidable_of_iff (key = key') (by simp [same, sameRest])
    | isFalse different, _ => isFalse (by simp [different])
    | _, isFalse different => isFalse (by simp [different])

end

instance : DecidableEq Node := decideEq

/-- Puts a node in front of a message. A text joins a text that the message begins with. -/
def consJoined : Node → List Node → List Node
  | text first, text second :: rest => text (first ++ second) :: rest
  | node, rest => node :: rest

def joinTexts : List Node → List Node
  | [] => []
  | node :: rest => consJoined node (joinTexts rest)

end Node

end Parlance
