import Parlance.Proofs.Render.Equations
import Parlance.Proofs.Render.Visits

namespace Parlance.Render

open Parlance.Format Parlance.Markup

/-! # Relations between two renderings

Two settings that agree in what they give for tags, and for the directives that a rendering comes
to, render the message side by side. A relation of outcomes that holds of what they do with texts
and failures, and that is kept when outcomes are appended, holds of the whole renderings.
-/

/-- What comes next for a message is decided by what is done with its first node. -/
theorem LeadsTo.of_same {format format' : Directive → Except Error Formatted}
    {wrap wrap' : Element → Except Error Wrapping} {nodes later : List Node}
    (leads : LeadsTo format wrap later nodes)
    (formats : ∀ (directive : Directive) rest, nodes = directive.toNode :: rest →
      format directive = format' directive)
    (wraps : ∀ element, wrap element = wrap' element) : LeadsTo format' wrap' later nodes := by
  cases leads with
  | rest => exact .rest
  | enter entered =>
      cases entered with
      | @format argument kind style _ formatted =>
          have same := formats ⟨argument, kind, .styled style⟩ _ rfl
          exact .enter (.format (same.symm.trans formatted))
      | @message argument kind branches _ formatted =>
          have same := formats ⟨argument, kind, .branched branches⟩ _ rfl
          exact .enter (.message (same.symm.trans formatted))
      | tag wrapped => exact .enter (.tag ((wraps _).symm.trans wrapped))

/-- The relation holds of the single steps of two renderings of the message and is kept from left
to right. -/
structure Keeps (relation : Outcome String → Outcome String → Prop) (first second : Setting)
    (message : List Node) : Prop where
  formats : ∀ directive, first.Visits directive.toNode message →
    first.format directive = second.format directive
  wraps : ∀ element, first.wrap element = second.wrap element
  text : ∀ text, relation (.ok text) (.ok text)
  recover : ∀ argument kind error,
    relation (first.recover argument kind error) (second.recover argument kind error)
  append : ∀ {left right leftMore rightMore}, relation left right →
    relation leftMore rightMore → relation (left.append leftMore) (right.append rightMore)

namespace Keeps

variable {relation : Outcome String → Outcome String → Prop} {first second : Setting}
  {message : List Node}

theorem later (keeps : Keeps relation first second message) {inner : List Node}
    (leads : LeadsTo first.format first.wrap inner message) : Keeps relation first second inner :=
  { keeps with formats := fun directive visits => keeps.formats directive (.later leads visits) }

theorem renderDirective (keeps : Keeps relation first second message) (directive : Directive)
    (visits : first.Visits directive.toNode message)
    {goOn : ∀ nodes, first.format directive = .ok (.nodes nodes) → Outcome String}
    {goOn' : ∀ nodes, second.format directive = .ok (.nodes nodes) → Outcome String}
    (related : ∀ nodes formatted formatted',
      relation (goOn nodes formatted) (goOn' nodes formatted')) :
    relation (renderDirective first directive goOn) (renderDirective second directive goOn') := by
  have same := keeps.formats directive visits
  cases formatted : first.format directive with
  | error error =>
      rw [formatted] at same
      rw [renderDirective_of_error formatted, renderDirective_of_error same.symm]
      exact keeps.recover directive.argument directive.kind error
  | ok found =>
      rw [formatted] at same
      cases found with
      | text text =>
          rw [renderDirective_of_text formatted, renderDirective_of_text same.symm]
          exact keeps.text text
      | nodes nodes =>
          rw [renderDirective_of_nodes formatted, renderDirective_of_nodes same.symm]
          exact related nodes formatted same.symm

theorem renderTag (keeps : Keeps relation first second message) {element : Element}
    {goOn : ∀ wrapping, first.wrap element = .ok wrapping → Outcome String}
    {goOn' : ∀ wrapping, second.wrap element = .ok wrapping → Outcome String}
    (related : ∀ wrapping wrapped wrapped',
      relation (goOn wrapping wrapped) (goOn' wrapping wrapped')) :
    relation (renderTag first element goOn) (renderTag second element goOn') := by
  have same := keeps.wraps element
  cases wrapped : first.wrap element with
  | error error =>
      rw [wrapped] at same
      rw [renderTag_of_error wrapped, renderTag_of_error same.symm]
      exact keeps.recover element.name tagKind error
  | ok wrapping =>
      rw [wrapped] at same
      rw [renderTag_of_wrapping wrapped, renderTag_of_wrapping same.symm]
      have opened := keeps.append (keeps.text wrapping.opening)
        (related wrapping wrapped same.symm)
      exact keeps.append opened (keeps.text wrapping.closing)

theorem renderNode (keeps : Keeps relation first second message) {node : Node}
    (visits : first.Visits node message)
    {goOn : ∀ inner, Enters first.format first.wrap node inner → Outcome String}
    {goOn' : ∀ inner, Enters second.format second.wrap node inner → Outcome String}
    (related : ∀ inner entered entered', relation (goOn inner entered) (goOn' inner entered')) :
    relation (renderNode first node goOn) (renderNode second node goOn') := by
  cases node with
  | text value => exact keeps.text value
  | format argument kind style =>
      exact keeps.renderDirective ⟨argument, kind, .styled style⟩ visits
        fun nodes formatted formatted' => related nodes (.format formatted) (.format formatted')
  | message argument kind branches =>
      exact keeps.renderDirective ⟨argument, kind, .branched branches⟩ visits
        fun nodes formatted formatted' => related nodes (.message formatted) (.message formatted')
  | tag name attributes children =>
      exact keeps.renderTag fun wrapping wrapped wrapped' =>
        related wrapping.children (.tag wrapped) (.tag wrapped')

theorem leadsTo_iff {nodes later : List Node} (keeps : Keeps relation first second nodes) :
    LeadsTo first.format first.wrap later nodes ↔ LeadsTo second.format second.wrap later nodes :=
  ⟨fun leads => leads.of_same (fun _ _ same => keeps.formats _ (same ▸ .here)) keeps.wraps,
    fun leads => leads.of_same (fun _ _ same => (keeps.formats _ (same ▸ .here)).symm)
      fun element => (keeps.wraps element).symm⟩

/-- One of the renderings ends if the other does. -/
theorem ends_iff {nodes : List Node} (keeps : Keeps relation first second nodes) :
    first.Ends nodes ↔ second.Ends nodes := by
  constructor
  · intro ends
    induction ends with
    | intro nodes _ ih =>
        refine ⟨_, fun later leads => ?_⟩
        have back := keeps.leadsTo_iff.mpr leads
        exact ih later back (keeps.later back)
  · intro ends
    induction ends with
    | intro nodes _ ih =>
        refine ⟨_, fun later leads => ?_⟩
        exact ih later (keeps.leadsTo_iff.mp leads) (keeps.later leads)

/-- The relation holds of the renderings of the message. -/
theorem renderList {nodes : List Node} (keeps : Keeps relation first second nodes)
    (ends : first.Ends nodes) (ends' : second.Ends nodes) :
    relation (renderList first nodes ends) (renderList second nodes ends') := by
  -- the induction is along the rendering by the first setting; the second takes the same way
  induction ends with
  | intro nodes _ ih =>
      cases nodes with
      | nil =>
          rw [renderList_nil, renderList_nil]
          exact keeps.text ""
      | cons node rest =>
          rw [renderList_cons, renderList_cons]
          refine keeps.append (keeps.renderNode .here fun inner entered entered' => ?_) ?_
          · exact ih inner (.enter entered) (keeps.later (.enter entered))
              (ends'.inv (.enter entered'))
          · exact ih rest .rest (keeps.later .rest) (ends'.inv .rest)

end Keeps

end Parlance.Render
