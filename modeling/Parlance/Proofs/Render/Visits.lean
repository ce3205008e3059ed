import Parlance.Proofs.Pattern.Constructs
import Parlance.Proofs.Render.Builtin

namespace Parlance

open Parlance.Format Parlance.Markup Parlance.Render

/-! # What a rendering comes to

A rendering comes to the nodes of the messages that it is led to, one after another. With built-in
formatters these are constructs of the message that it begins with, and what a tag formatter brings
in. A tag formatter that keeps the children between two texts brings in nothing.
-/

theorem Format.Directive.toNode_mem_constructsOf (directive : Directive) :
    directive.toNode ∈ directive.toNode.constructsOf := by
  obtain ⟨argument, kind, shape⟩ := directive
  cases shape <;> exact List.mem_cons_self

def Markup.Element.toNode (element : Element) : Node :=
  .tag element.name element.attributes element.children

namespace Markup.TagFormatter

/-- Some tag is formatted with the construct in it, and the construct is not in its children. -/
def Injects (tags : TagFormatter) (node : Node) : Prop :=
  ∃ context element arguments wrapping, tags.wrap context element arguments = .ok wrapping ∧
    node ∈ Node.constructs wrapping.children ∧ node ∉ Node.constructs element.children

theorem not_injects_around (texts : Element → String × String) (node : Node) :
    ¬ (around texts).Injects node := by
  rintro ⟨context, element, arguments, wrapping, wrapped, inside, outside⟩
  cases wrapped
  exact outside inside

end Markup.TagFormatter

namespace Render.Setting

/-- The rendering of the message comes to the node, unless it stops before. -/
inductive Visits (setting : Setting) (node : Node) : List Node → Prop
  | here : Visits setting node (node :: rest)
  | later {inner : List Node} (leads : LeadsTo setting.format setting.wrap inner nodes)
      (visits : Visits setting node inner) : Visits setting node nodes

variable {setting : Setting} {node found : Node} {nodes : List Node}

theorem IsBuiltin.not_injects (builtin : setting.IsBuiltin) : ¬ setting.tags.Injects node := by
  rcases builtin.tags with html | markdown
  · rw [html]
    exact TagFormatter.not_injects_around _ node
  · rw [markdown]
    exact TagFormatter.not_injects_around _ node

section Constructs

variable (formatters : ∀ entry ∈ setting.registry, entry.2.IsBuiltin)

include formatters

theorem mem_constructsOf_of_enters {inner : List Node}
    (entered : Enters setting.format setting.wrap node inner)
    (member : found ∈ Node.constructs inner) (own : ¬ setting.tags.Injects found) :
    found ∈ node.constructsOf := by
  cases entered with
  | format formatted => exact absurd formatted (styled_ne_nodes formatters)
  | message formatted =>
      obtain ⟨key, branch⟩ := mem_of_nodes formatters formatted
      rw [Node.constructsOf]
      exact List.mem_cons_of_mem _
        (Node.mem_constructsOfBranches.mpr ⟨key, inner, branch, member⟩)
  | tag wrapped =>
      rw [Node.constructsOf]
      refine List.mem_cons_of_mem _ (Classical.byContradiction fun outside => own ?_)
      exact ⟨_, _, _, _, wrapped, member, outside⟩

/-- A rendering by built-in formatters comes to no other constructs than those of the message, if
the tag formatter does not bring them in. -/
theorem mem_constructs_of_visits (visits : setting.Visits found nodes)
    (construct : found ∈ found.constructsOf) (own : ¬ setting.tags.Injects found) :
    found ∈ Node.constructs nodes := by
  induction visits with
  | here => exact Node.mem_constructs_cons.mpr (Or.inl construct)
  | later leads _ ih =>
      cases leads with
      | rest => exact Node.mem_constructs_cons.mpr (Or.inr ih)
      | enter entered =>
          have inside := mem_constructsOf_of_enters formatters entered ih own
          exact Node.mem_constructs_cons.mpr (Or.inl inside)

end Constructs

theorem IsBuiltin.mem_constructs_of_visits (builtin : setting.IsBuiltin) {directive : Directive}
    (visits : setting.Visits directive.toNode nodes) :
    directive.toNode ∈ Node.constructs nodes :=
  Setting.mem_constructs_of_visits builtin.formatters visits directive.toNode_mem_constructsOf
    builtin.not_injects

end Render.Setting

end Parlance
