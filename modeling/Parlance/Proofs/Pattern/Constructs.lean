import Parlance.Keyed
import Parlance.Pattern.Node

namespace Parlance.Node

/-! # The constructs of a message

Besides texts a message has directives and tags, and these may have messages inside them. Joining
texts leaves them as they are.
-/

mutual

/-- The node, unless it is a text, and all directives and tags inside it. -/
def constructsOf : Node → List Node
  | text _ => []
  | format argument kind style => [format argument kind style]
  | message argument kind branches =>
    message argument kind branches :: constructsOfBranches branches
  | tag name attributes children => tag name attributes children :: constructs children

/-- The directives and tags of a message, at every depth. -/
def constructs : List Node → List Node
  | [] => []
  | node :: rest => constructsOf node ++ constructs rest

def constructsOfBranches : List (String × List Node) → List Node
  | [] => []
  | (_, nodes) :: rest => constructs nodes ++ constructsOfBranches rest

end

theorem mem_constructs_cons {found node : Node} {rest : List Node} :
    found ∈ constructs (node :: rest) ↔ found ∈ node.constructsOf ∨ found ∈ constructs rest := by
  rw [constructs, List.mem_append]

theorem mem_constructsOfBranches {found : Node} {branches : List (String × List Node)} :
    found ∈ constructsOfBranches branches ↔
      ∃ key nodes, (key, nodes) ∈ branches ∧ found ∈ constructs nodes := by
  induction branches with
  | nil => simp [constructsOfBranches]
  | cons branch rest ih =>
      obtain ⟨key, nodes⟩ := branch
      rw [constructsOfBranches, List.mem_append, ih]
      constructor
      · rintro (here | ⟨name, inner, member, later⟩)
        · exact ⟨key, nodes, List.mem_cons_self, here⟩
        · exact ⟨name, inner, List.mem_cons_of_mem _ member, later⟩
      · rintro ⟨name, inner, member, inside⟩
        rcases List.mem_cons.mp member with same | later
        · cases same
          exact Or.inl inside
        · exact Or.inr ⟨name, inner, later, inside⟩

/-- The constructs of the branches that stay are constructs of the branches as they are written. -/
theorem mem_constructsOfBranches_of_ofList {found : Node} {entries : List (String × List Node)}
    (member : found ∈ constructsOfBranches (Keyed.ofList entries)) :
    found ∈ constructsOfBranches entries := by
  obtain ⟨key, nodes, entry, inside⟩ := mem_constructsOfBranches.mp member
  exact mem_constructsOfBranches.mpr ⟨key, nodes, Keyed.mem_of_mem_ofList entry, inside⟩

theorem constructs_consJoined (node : Node) (nodes : List Node) :
    constructs (consJoined node nodes) = node.constructsOf ++ constructs nodes := by
  cases node with
  | text first =>
      cases nodes with
      | nil => rfl
      | cons next rest => cases next <;> rfl
  | format | message | tag => rfl

theorem constructs_joinTexts (nodes : List Node) :
    constructs (joinTexts nodes) = constructs nodes := by
  induction nodes with
  | nil => rfl
  | cons node rest ih => rw [joinTexts, constructs_consJoined, ih, constructs]

theorem mem_constructs_append {found : Node} {first second : List Node} :
    found ∈ constructs (first ++ second) ↔
      found ∈ constructs first ∨ found ∈ constructs second := by
  induction first with
  | nil => simp [constructs]
  | cons node rest ih =>
      rw [List.cons_append, mem_constructs_cons, mem_constructs_cons, ih, or_assoc]

section Inside

variable {argument kind key name : String} {attributes : List (String × Option String)}
  {branches : List (String × List Node)} {children nodes rest : List Node}

theorem constructs_rest_subset (node : Node) (rest : List Node) :
    constructs rest ⊆ constructs (node :: rest) :=
  fun _ member => mem_constructs_cons.mpr (Or.inr member)

theorem constructs_branch_subset (branch : (key, nodes) ∈ branches) :
    constructs nodes ⊆ constructs (.message argument kind branches :: rest) := by
  intro found member
  refine mem_constructs_cons.mpr (Or.inl ?_)
  rw [constructsOf]
  exact List.mem_cons_of_mem _ (mem_constructsOfBranches.mpr ⟨key, nodes, branch, member⟩)

theorem constructs_children_subset :
    constructs children ⊆ constructs (.tag name attributes children :: rest) :=
  fun _ member => mem_constructs_cons.mpr (Or.inl (List.mem_cons_of_mem _ member))

end Inside

end Parlance.Node
