import Parlance.Proofs.Pattern.Constructs
import Parlance.Proofs.Render.Composition
import Parlance.Proofs.Render.Strictness

namespace Parlance

open Parlance.Format Parlance.Markup Parlance.Render

/-! # Choices that are made beforehand

A directive that chooses a branch is rendered as the nodes of the branch, so it may give way to them
before the message is rendered. Directives that choose none stay where they are, and they fail or
are written there as before. What is inside branches and tags is settled in the same way.
-/

namespace Node

section Settling

variable (format : Directive → Except Error Formatted)

mutual

/-- The node, or the branch that it chooses. The branches are settled before the choice, which looks
at keys only. -/
def settleNode : Node → List Node
  | .text value => [.text value]
  | .format argument kind style => [.format argument kind style]
  | .message argument kind branches =>
    match format ⟨argument, kind, .branched (settleBranches branches)⟩ with
    | .ok (.nodes chosen) => chosen
    | _ => [.message argument kind (settleBranches branches)]
  | .tag name attributes children => [.tag name attributes (settle children)]

/-- The message in which each directive that chooses a branch has given way to the nodes of the
branch, at every depth. -/
def settle : List Node → List Node
  | [] => []
  | node :: rest => settleNode node ++ settle rest

def settleBranches : List (String × List Node) → List (String × List Node)
  | [] => []
  | (key, nodes) :: rest => (key, settle nodes) :: settleBranches rest

end

end Settling

variable {format : Directive → Except Error Formatted}

theorem settleBranches_eq (branches : List (String × List Node)) :
    settleBranches format branches = Keyed.mapValues (settle format) branches := by
  induction branches with
  | nil => rfl
  | cons entry rest ih =>
      obtain ⟨key, nodes⟩ := entry
      rw [settleBranches, ih]
      rfl

theorem settle_tag (name : String) (attributes : List (String × Option String))
    (children rest : List Node) :
    settle format (.tag name attributes children :: rest) =
      .tag name attributes (settle format children) :: settle format rest :=
  rfl

theorem settle_message (argument kind : String) (branches : List (String × List Node))
    (rest : List Node) :
    settle format (.message argument kind branches :: rest) =
      (match format ⟨argument, kind, .branched (Keyed.mapValues (settle format) branches)⟩ with
        | .ok (.nodes chosen) => chosen
        | _ => [.message argument kind (Keyed.mapValues (settle format) branches)]) ++
      settle format rest := by
  rw [settle, settleNode, settleBranches_eq]

end Node

theorem Format.Directive.toNode_inj {first second : Directive}
    (same : first.toNode = second.toNode) : first = second := by
  obtain ⟨argument, kind, shape⟩ := first
  obtain ⟨argument', kind', shape'⟩ := second
  cases shape <;> cases shape' <;> cases same <;> rfl

namespace Render.Setting

open Node (settle)

variable {setting : Setting} {directive : Directive} {nodes rest : List Node}

/-- No directive of the message chooses a branch, at any depth. -/
def IsSettled (setting : Setting) (nodes : List Node) : Prop :=
  ∀ directive : Directive, directive.toNode ∈ Node.constructs nodes →
    ∀ chosen, setting.format directive ≠ .ok (.nodes chosen)

/-- The tag formatter does not look at the children of such a tag. It puts all of them between two
texts, or what it gives has nothing to do with them. -/
def Overlooks (setting : Setting) (name : String) (attributes : List (String × Option String)) :
    Prop :=
  (∃ found, ∀ children, setting.wrap ⟨name, attributes, children⟩ = found) ∨
    ∃ opening closing, ∀ children,
      setting.wrap ⟨name, attributes, children⟩ = .ok ⟨opening, children, closing⟩

/-- The tag formatter does not look at the children of any tag of the message. -/
def OverlooksTags (setting : Setting) (nodes : List Node) : Prop :=
  ∀ name attributes children, .tag name attributes children ∈ Node.constructs nodes →
    setting.Overlooks name attributes

theorem IsBuiltin.overlooksTags (builtin : setting.IsBuiltin) (nodes : List Node) :
    setting.OverlooksTags nodes :=
  fun name attributes _ _ => Or.inr (builtin.exists_wrap name attributes)

theorem OverlooksTags.inside {inner : List Node} (overlooks : setting.OverlooksTags nodes)
    (within : Node.constructs inner ⊆ Node.constructs nodes) : setting.OverlooksTags inner :=
  fun name attributes children member => overlooks name attributes children (within member)

namespace IsSettled

theorem append {first second : List Node} (settled : setting.IsSettled first)
    (more : setting.IsSettled second) : setting.IsSettled (first ++ second) := by
  intro directive member
  rcases Node.mem_constructs_append.mp member with before | behind
  · exact settled directive before
  · exact more directive behind

theorem text (value : String) (more : setting.IsSettled rest) :
    setting.IsSettled (.text value :: rest) :=
  more

theorem ofDirective (directive : Directive)
    (kept : ∀ chosen, setting.format directive ≠ .ok (.nodes chosen))
    (each : ∀ branches, directive.branches = .ok branches →
      ∀ key nodes, (key, nodes) ∈ branches → setting.IsSettled nodes)
    (more : setting.IsSettled rest) : setting.IsSettled (directive.toNode :: rest) := by
  intro other member
  rcases Node.mem_constructs_cons.mp member with here | behind
  · obtain ⟨argument, kind, shape⟩ := directive
    cases shape with
    | styled style =>
        have same : other = ⟨argument, kind, .styled style⟩ :=
          Directive.toNode_inj (List.mem_singleton.mp here)
        rw [same]
        exact kept
    | branched branches =>
        rcases List.mem_cons.mp here with first | inside
        · have same : other = ⟨argument, kind, .branched branches⟩ := Directive.toNode_inj first
          rw [same]
          exact kept
        · obtain ⟨key, nodes, branch, inside⟩ := Node.mem_constructsOfBranches.mp inside
          exact each branches rfl key nodes branch other inside
  · exact more other behind

theorem tag (name : String) (attributes : List (String × Option String)) {children : List Node}
    (inside : setting.IsSettled children) (more : setting.IsSettled rest) :
    setting.IsSettled (.tag name attributes children :: rest) := by
  intro directive member
  rcases Node.mem_constructs_cons.mp member with here | behind
  · rcases List.mem_cons.mp here with first | within
    · obtain ⟨argument, kind, shape⟩ := directive
      cases shape <;> cases first
    · exact inside directive within
  · exact more directive behind

end IsSettled

section Formatters

variable (formatters : ∀ entry ∈ setting.registry, entry.2.IsBuiltin)

include formatters

/-- A directive that chooses a branch gives way to the branch, which is settled in turn. -/
theorem settle_of_nodes (formatted : setting.format directive = .ok (.nodes nodes))
    (rest : List Node) :
    settle setting.format (directive.toNode :: rest) =
      settle setting.format nodes ++ settle setting.format rest := by
  have chosen := format_mapBranches formatters (settle setting.format) directive
  rw [formatted] at chosen
  obtain ⟨argument, kind, shape⟩ := directive
  cases shape with
  | styled style => exact absurd formatted (styled_ne_nodes formatters)
  | branched branches =>
      have chosen : setting.format
          ⟨argument, kind, .branched (Keyed.mapValues (settle setting.format) branches)⟩ =
            .ok (.nodes (settle setting.format nodes)) := chosen
      rw [Directive.toNode, Node.settle_message, chosen]

theorem format_settled_of_kept (kept : ∀ nodes, setting.format directive ≠ .ok (.nodes nodes)) :
    setting.format (directive.mapBranches (settle setting.format)) = setting.format directive := by
  rw [format_mapBranches formatters]
  cases formatted : setting.format directive with
  | error error => rfl
  | ok found =>
      cases found with
      | text text => rfl
      | nodes nodes => exact absurd formatted (kept nodes)

/-- A directive that chooses no branch stays, and its branches are settled. -/
theorem settle_of_kept (kept : ∀ nodes, setting.format directive ≠ .ok (.nodes nodes))
    (rest : List Node) :
    settle setting.format (directive.toNode :: rest) =
      (directive.mapBranches (settle setting.format)).toNode :: settle setting.format rest := by
  have same := format_settled_of_kept formatters kept
  obtain ⟨argument, kind, shape⟩ := directive
  cases shape with
  | styled style => rfl
  | branched branches =>
      simp only [Directive.mapBranches] at same ⊢
      rw [Directive.toNode, Node.settle_message, same]
      split
      · rename_i chosen formatted
        exact absurd formatted (kept chosen)
      · rfl

theorem isSettled_settle_directive (directive : Directive)
    (each : ∀ branches, directive.branches = .ok branches →
      ∀ key nodes, (key, nodes) ∈ branches → setting.IsSettled (settle setting.format nodes))
    (more : setting.IsSettled (settle setting.format rest)) :
    setting.IsSettled (settle setting.format (directive.toNode :: rest)) := by
  by_cases chooses : ∃ nodes, setting.format directive = .ok (.nodes nodes)
  · obtain ⟨nodes, formatted⟩ := chooses
    rw [settle_of_nodes formatters formatted]
    refine IsSettled.append ?_ more
    obtain ⟨argument, kind, shape⟩ := directive
    cases shape with
    | styled style => exact absurd formatted (styled_ne_nodes formatters)
    | branched branches =>
        obtain ⟨key, member⟩ := mem_of_nodes formatters formatted
        exact each branches rfl key nodes member
  · have kept := not_exists.mp chooses
    rw [settle_of_kept formatters kept]
    refine IsSettled.ofDirective _ ?_ (fun settled found key nodes member => ?_) more
    · rw [format_settled_of_kept formatters kept]
      exact kept
    · obtain ⟨argument, kind, shape⟩ := directive
      cases shape with
      | styled style => cases found
      | branched branches =>
          cases found
          obtain ⟨branch, written, same⟩ := List.mem_map.mp member
          cases same
          exact each branches rfl branch.1 branch.2 written

/-- No directive of a settled message chooses a branch. -/
theorem isSettled_settle (nodes : List Node) :
    setting.IsSettled (settle setting.format nodes) := by
  induction nodes using Node.list_induction with
  | nil => exact fun _ member => nomatch member
  | text value rest ih => exact ih.text value
  | format argument kind style rest ih =>
      refine isSettled_settle_directive formatters ⟨argument, kind, .styled style⟩ ?_ ih
      exact fun branches found => nomatch found
  | message argument kind branches rest each ih =>
      refine isSettled_settle_directive formatters ⟨argument, kind, .branched branches⟩ ?_ ih
      intro written found key nodes member
      cases found
      exact each key nodes member
  | tag name attributes children rest inside ih => exact inside.tag name attributes ih

theorem alike_settle_directive (directive : Directive)
    (each : ∀ nodes, setting.format directive = .ok (.nodes nodes) →
      setting.Alike (settle setting.format nodes) nodes)
    (more : setting.Alike (settle setting.format rest) rest) :
    setting.Alike (settle setting.format (directive.toNode :: rest))
      (directive.toNode :: rest) := by
  by_cases chooses : ∃ nodes, setting.format directive = .ok (.nodes nodes)
  · obtain ⟨nodes, formatted⟩ := chooses
    rw [settle_of_nodes formatters formatted]
    exact ((each nodes formatted).append more).trans (Alike.of_nodes formatted rest).symm
  · have kept := not_exists.mp chooses
    rw [settle_of_kept formatters kept]
    exact Alike.of_format_eq (format_settled_of_kept formatters kept)
      (Directive.mapBranches_argument ..) (Directive.mapBranches_kind ..) more

/-- A settled message is rendered like the message itself. -/
theorem alike_settle (nodes : List Node) (overlooks : setting.OverlooksTags nodes) :
    setting.Alike (settle setting.format nodes) nodes := by
  induction nodes using Node.list_induction with
  | nil => exact Alike.refl []
  | text value rest ih => exact (ih overlooks).cons (.text value)
  | format argument kind style rest ih =>
      have behind := ih (overlooks.inside (Node.constructs_rest_subset _ rest))
      refine alike_settle_directive formatters ⟨argument, kind, .styled style⟩ ?_ behind
      exact fun nodes formatted => absurd formatted (styled_ne_nodes formatters)
  | message argument kind branches rest each ih =>
      have behind := ih (overlooks.inside (Node.constructs_rest_subset _ rest))
      refine alike_settle_directive formatters ⟨argument, kind, .branched branches⟩ ?_ behind
      intro nodes formatted
      obtain ⟨key, branch⟩ := mem_of_nodes formatters formatted
      exact each key nodes branch (overlooks.inside (Node.constructs_branch_subset branch))
  | tag name attributes children rest inside ih =>
      have behind := ih (overlooks.inside (Node.constructs_rest_subset _ rest))
      have within := inside (overlooks.inside Node.constructs_children_subset)
      rw [Node.settle_tag]
      rcases overlooks name attributes children List.mem_cons_self with
        ⟨found, same⟩ | ⟨opening, closing, kept⟩
      · cases found with
        | error error => exact Alike.of_refused (same _) (same _) behind
        | ok wrapping => exact Alike.of_wrappings (same _) (same _) rfl rfl (Alike.refl _) behind
      · exact Alike.of_wrappings (kept _) (kept _) rfl rfl within behind

end Formatters

end Render.Setting

namespace Engine

/-- A message may be settled for a strict engine and rendered by a lenient one, and the other way
round. -/
theorem alike_settle_strictness {engine : Engine} {locale : String} {path : Option String}
    {arguments : Arguments} {nodes : List Node}
    (formatters : ∀ entry ∈ engine.registry, entry.2.IsBuiltin)
    (overlooks : (engine.setting locale path arguments).OverlooksTags nodes) (strict : Bool) :
    ({ engine with strict := strict }.setting locale path arguments).Alike
      (Node.settle (engine.setting locale path arguments).format nodes) nodes :=
  @Setting.alike_settle ({ engine with strict := strict }.setting locale path arguments) formatters
    nodes overlooks

/-- What stands behind a part of a message is rendered behind the part, unless the part fails.
Texts that follow each other are rendered like one text. With built-in formatters choices may be
made beforehand: a directive gives way to the branch that it chooses, no directive of the settled
message chooses a branch, and strictly as well as leniently it is rendered like the message itself,
if the tag formatter does not look at what is inside the tags. The built-in ones never do. -/
theorem rendering_is_compositional (engine : Engine) (locale : String) (path : Option String)
    (arguments : Arguments) :
    let setting := engine.setting locale path arguments
    (∀ first second : List Node,
      (setting.Ends (first ++ second) ↔ setting.Ends first ∧ setting.Ends second) ∧
      ∀ ends endsFirst endsSecond,
        let whole := engine.render locale path arguments (first ++ second) ends
        let before := engine.render locale path arguments first endsFirst
        let behind := engine.render locale path arguments second endsSecond
        (∀ error, before.result = .error error → whole = before) ∧
        (∀ text, before.result = .ok text →
          whole = ⟨behind.result.map (text ++ ·), before.records ++ behind.records⟩) ∧
        (engine.strict = false → ∃ text more,
          before.result = .ok text ∧ behind.result = .ok more ∧
            whole = ⟨.ok (text ++ more), before.records ++ behind.records⟩)) ∧
    (∀ before value more rest,
      setting.Alike (before ++ .text value :: .text more :: rest)
        (before ++ .text (value ++ more) :: rest)) ∧
    (∀ nodes, setting.Alike (Node.joinTexts nodes) nodes) ∧
    ((∀ entry ∈ engine.registry, entry.2.IsBuiltin) →
      let settle := Node.settle setting.format
      (∀ directive chosen rest, setting.format directive = .ok (.nodes chosen) →
        settle (directive.toNode :: rest) = settle chosen ++ settle rest) ∧
      (∀ directive rest, (∀ chosen, setting.format directive ≠ .ok (.nodes chosen)) →
        settle (directive.toNode :: rest) =
          (directive.mapBranches settle).toNode :: settle rest) ∧
      ∀ nodes, setting.IsSettled (settle nodes) ∧
        (setting.OverlooksTags nodes →
          ∀ strict, ({ engine with strict := strict }.setting locale path arguments).Alike
            (settle nodes) nodes)) ∧
    (engine.IsBuiltin → ∀ nodes, setting.OverlooksTags nodes ∧
      ∀ strict, ({ engine with strict := strict }.setting locale path arguments).Alike
        (Node.settle setting.format nodes) nodes) := by
  intro setting
  refine ⟨fun first second => ⟨Setting.ends_append, fun ends endsFirst endsSecond => ?_⟩,
    fun before value more rest => ?_, Setting.Alike.joinTexts,
    fun formatters => ⟨?_, ?_, fun nodes => ⟨Setting.isSettled_settle formatters nodes, ?_⟩⟩,
    fun builtin nodes => ?_⟩
  · intro whole before behind
    have appended : whole = before.append behind := renderList_append endsFirst endsSecond ends
    refine ⟨fun error failed => ?_, fun text written => ?_, fun lenient => ?_⟩
    · exact appended.trans (Outcome.append_of_error failed behind)
    · exact appended.trans (Outcome.append_of_ok written behind)
    · obtain ⟨text, written⟩ := exists_text_of_lenient lenient endsFirst
      obtain ⟨more, written'⟩ := exists_text_of_lenient lenient endsSecond
      refine ⟨text, more, written, written', ?_⟩
      rw [appended, Outcome.append_of_ok written, show behind.result = .ok more from written']
      rfl
  · exact (Setting.Alike.refl before).append (.texts value more rest)
  · exact fun directive chosen rest formatted => Setting.settle_of_nodes formatters formatted rest
  · exact fun directive rest kept => Setting.settle_of_kept formatters kept rest
  · exact fun overlooks => alike_settle_strictness formatters overlooks
  · have overlooks := (builtin.setting locale path arguments).overlooksTags nodes
    exact ⟨overlooks, alike_settle_strictness builtin.formatters overlooks⟩

/-- A choice inside a choice, and one inside a directive that fails. -/
theorem settled_choices :
    let engine : Engine := {}
    let arguments := [("n", .integer 1), ("g", .text "f")]
    let nodes := [.tag "b" [] [.message "n" "plural" [("one",
        [.message "g" "select" [("f", [.text "her"])], .format "m" "value" none])]],
      .message "m" "select" [("other", [.message "g" "select" [("f", [.text "she"])]])]]
    let settled := [.tag "b" [] [.text "her", .format "m" "value" none],
      .message "m" "select" [("other", [.text "she"])]]
    Node.settle (engine.setting "en" none arguments).format nodes = settled ∧
      ∃ ends ends', engine.render "en" none arguments settled ends =
        engine.render "en" none arguments nodes ends' := by
  intro engine arguments nodes settled
  have builtin : engine.IsBuiltin := default_isBuiltin false .html _
  have settles : Node.settle (engine.setting "en" none arguments).format nodes = settled := by
    decide +kernel
  obtain ⟨_, _, _, _, settling⟩ := rendering_is_compositional engine "en" none arguments
  have alike := (settling builtin nodes).2 false
  rw [settles] at alike
  exact ⟨settles, builtin.ends .., builtin.ends .., alike.rendered _ _⟩

/-- A tag formatter that looks at the children of the tag tells the message from the settled one. -/
theorem tags_tell_settled_apart :
    let tags : TagFormatter :=
      ⟨fun _ element _ => .ok ⟨if element.children = [.text "x"] then "!" else "",
        element.children, ""⟩⟩
    let engine : Engine := { customTags := some tags }
    let arguments := [("g", .text "f")]
    let nodes := [.tag "b" [] [.message "g" "select" [("other", [.text "x"])]]]
    let settled := [.tag "b" [] [.text "x"]]
    (∀ entry ∈ engine.registry, entry.2.IsBuiltin) ∧
      Node.settle (engine.setting "en" none arguments).format nodes = settled ∧
      ∃ ends ends', engine.render "en" none arguments nodes ends = .ok "x" ∧
        engine.render "en" none arguments settled ends' = .ok "!x" := by
  intro tags engine arguments nodes settled
  let setting := engine.setting "en" none arguments
  let directive : Directive := ⟨"g", "select", .branched [("other", [.text "x"])]⟩
  have builtin : ({} : Engine).IsBuiltin := default_isBuiltin false .html _
  have settles : Node.settle setting.format nodes = settled := by
    decide +kernel
  have ends (nodes : List Node) : setting.Ends nodes := by
    refine Setting.ends builtin.formatters (fun element wrapping wrapped => ?_) nodes
    cases wrapped
    rfl
  have chosen : setting.format directive = .ok (.nodes [.text "x"]) := by
    decide +kernel
  have unmarked : setting.wrap ⟨"b", [], [directive.toNode]⟩ = .ok ⟨"", [directive.toNode], ""⟩ := by
    decide +kernel
  have marked : setting.wrap ⟨"b", [], [.text "x"]⟩ = .ok ⟨"!", [.text "x"], ""⟩ := by
    decide +kernel
  have text (ends) : renderList setting [.text "x"] ends = .ok "x" := by
    rw [renderList_text, renderList_nil, Outcome.append_ok_empty]
  have chosenText (ends) : renderList setting [.tag "b" [] [directive.toNode]] ends = .ok "x" := by
    rw [renderList_of_wrapping unmarked, renderList_of_nodes chosen, text, renderList_nil]
    simp only [Outcome.append_ok_empty, Outcome.ok_empty_append]
  have markedText (ends) : renderList setting [.tag "b" [] [.text "x"]] ends = .ok "!x" := by
    rw [renderList_of_wrapping marked, text, renderList_nil]
    rfl
  exact ⟨builtin.formatters, settles, ends _, ends _, chosenText _, markedText _⟩

end Engine

end Parlance
