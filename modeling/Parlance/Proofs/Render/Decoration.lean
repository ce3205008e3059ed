import Parlance.Proofs.Render.Builtin

namespace Parlance

open Parlance.Format Parlance.Markup Parlance.Render

/-! # Tags are decoration

A tag formatter that keeps the children of every tag between two texts has no say in anything else.
The rendering lays out texts, some of them inside tags, and it does so in the same way for every
such formatter; then each of them puts its own marks around what is inside a tag. Without marks the
text is that of the message in which each tag has given way to its children.
-/

namespace Markup

/-- A formatter that puts nothing around the children of a tag. -/
def TagFormatter.bare : TagFormatter := .around fun _ => ("", "")

def htmlMarks (element : Element) : String × String :=
  (openingTag element, closingTag element)

/-- A part of a rendered text: one that was written as it is, or one inside a tag. -/
inductive Span where
  | text (value : String)
  | tagged (element : Element) (inside : List Span)

namespace Span

mutual

def decorateOne (marks : Element → String × String) : Span → String
  | text value => value
  | tagged element inside => (marks element).1 ++ decorate marks inside ++ (marks element).2

/-- The text with marks around what is inside tags. -/
def decorate (marks : Element → String × String) : List Span → String
  | [] => ""
  | span :: rest => decorateOne marks span ++ decorate marks rest

end

mutual

def plainOne : Span → String
  | text value => value
  | tagged _ inside => plain inside

/-- The text as it is without any marks. -/
def plain : List Span → String
  | [] => ""
  | span :: rest => plainOne span ++ plain rest

end

theorem decorate_append (marks : Element → String × String) (spans more : List Span) :
    decorate marks (spans ++ more) = decorate marks spans ++ decorate marks more := by
  induction spans with
  | nil => simp only [List.nil_append, decorate, String.empty_append]
  | cons span rest ih => simp only [List.cons_append, decorate, ih, String.append_assoc]

mutual

theorem decorateOne_bare : ∀ span, decorateOne (fun _ => ("", "")) span = plainOne span
  | text value => rfl
  | tagged element inside => by
      rw [decorateOne, plainOne, decorate_bare inside, String.empty_append, String.append_empty]

theorem decorate_bare : ∀ spans, decorate (fun _ => ("", "")) spans = plain spans
  | [] => rfl
  | span :: rest => by rw [decorate, plain, decorateOne_bare span, decorate_bare rest]

end

end Span

end Markup

namespace Node

mutual

def untagNode : Node → List Node
  | .text value => [.text value]
  | .format argument kind style => [.format argument kind style]
  | .message argument kind branches => [.message argument kind (untagBranches branches)]
  | .tag _ _ children => untag children

/-- A message in which each tag has given way to its children, at every depth. -/
def untag : List Node → List Node
  | [] => []
  | node :: rest => untagNode node ++ untag rest

def untagBranches : List (String × List Node) → List (String × List Node)
  | [] => []
  | (key, nodes) :: rest => (key, untag nodes) :: untagBranches rest

end

theorem untagBranches_eq (branches : List (String × List Node)) :
    untagBranches branches = Keyed.mapValues untag branches := by
  induction branches with
  | nil => rfl
  | cons entry rest ih =>
      obtain ⟨key, nodes⟩ := entry
      rw [untagBranches, ih]
      rfl

theorem untag_text (value : String) (rest : List Node) :
    untag (.text value :: rest) = .text value :: untag rest :=
  rfl

theorem untag_tag (name : String) (attributes : List (String × Option String))
    (children rest : List Node) :
    untag (.tag name attributes children :: rest) = untag children ++ untag rest :=
  rfl

theorem untag_directive (directive : Directive) (rest : List Node) :
    untag (directive.toNode :: rest) = (directive.mapBranches untag).toNode :: untag rest := by
  obtain ⟨argument, kind, shape⟩ := directive
  cases shape with
  | styled style => rfl
  | branched branches =>
      simp only [Directive.toNode, Directive.mapBranches, untag, untagNode, untagBranches_eq]
      rfl

end Node

namespace Render

open Node (untag)

namespace Setting

/-- The rendering of the message comes to the texts and tags of the layout, in their order. Nothing
comes from directives that fail, and nothing from branches that are not chosen. -/
inductive Shows (setting : Setting) : List Node → List Span → Prop
  | nil : Shows setting [] []
  | text {value : String} (more : Shows setting rest later) :
      Shows setting (.text value :: rest) (.text value :: later)
  | failing {directive : Directive} {error : Error}
      (failed : setting.format directive = .error error) (more : Shows setting rest later) :
      Shows setting (directive.toNode :: rest) later
  | written {directive : Directive} {text : String}
      (formatted : setting.format directive = .ok (.text text)) (more : Shows setting rest later) :
      Shows setting (directive.toNode :: rest) (.text text :: later)
  | chosen {directive : Directive} {nodes : List Node}
      (formatted : setting.format directive = .ok (.nodes nodes))
      (first : Shows setting nodes earlier) (more : Shows setting rest later) :
      Shows setting (directive.toNode :: rest) (earlier ++ later)
  | tag {name : String} {attributes : List (String × Option String)} {children : List Node}
      (first : Shows setting children inside) (more : Shows setting rest later) :
      Shows setting (.tag name attributes children :: rest)
        (.tagged ⟨name, attributes, children⟩ inside :: later)

/-- The setting with a tag formatter that puts the marks around children. -/
abbrev marked (setting : Setting) (marks : Element → String × String) : Setting :=
  { setting with tags := .around marks }

end Setting

/-- The outcome with the layout written out. -/
def decorated (marks : Element → String × String) (layout : Outcome (List Span)) : Outcome String :=
  layout.andThen fun spans => .ok (Span.decorate marks spans)

def beside (first second : Outcome (List Span)) : Outcome (List Span) :=
  first.andThen fun spans => second.andThen fun more => .ok (spans ++ more)

theorem decorated_beside (marks : Element → String × String) (first second : Outcome (List Span)) :
    decorated marks (beside first second) =
      (decorated marks first).append (decorated marks second) := by
  simp only [decorated, beside, Outcome.append, Outcome.andThen_assoc, Outcome.ok_andThen,
    Span.decorate_append]

theorem decorated_tagged (marks : Element → String × String) (element : Element)
    (layout : Outcome (List Span)) :
    decorated marks (layout.andThen fun inside => .ok [.tagged element inside]) =
      ((Outcome.ok (marks element).1).append (decorated marks layout)).append
        (.ok (marks element).2) := by
  simp only [decorated, Outcome.append, Outcome.andThen_assoc, Outcome.ok_andThen, Span.decorate,
    Span.decorateOne, String.append_empty]

variable {setting : Setting} {node : Node} {nodes rest : List Node}

/-- The message has one layout for all tag formatters that keep children between two texts. -/
def LaidOut (setting : Setting) (nodes : List Node) : Prop :=
  ∃ layout : Outcome (List Span),
    (∀ spans, layout.result = .ok spans → setting.Shows nodes spans) ∧
    ∀ marks ends, renderList (setting.marked marks) nodes ends = decorated marks layout

theorem result_of_beside {first second : Outcome (List Span)} {spans : List Span}
    (laid : (beside first second).result = .ok spans) :
    ∃ earlier later, first.result = .ok earlier ∧ second.result = .ok later ∧
      spans = earlier ++ later := by
  obtain ⟨_ | earlier, records⟩ := first
  · contradiction
  · obtain ⟨_ | later, records⟩ := second
    · contradiction
    · cases laid
      exact ⟨earlier, later, rfl, rfl, rfl⟩

theorem LaidOut.cons (more : LaidOut setting rest) (first : Outcome (List Span))
    (shows : ∀ spans later, first.result = .ok spans → setting.Shows rest later →
      setting.Shows (node :: rest) (spans ++ later))
    (renders : ∀ marks (ends : (setting.marked marks).Ends (node :: rest)),
      renderNode (setting.marked marks) node
        (fun inner entered => renderList (setting.marked marks) inner (ends.inv (.enter entered))) =
          decorated marks first) :
    LaidOut setting (node :: rest) := by
  obtain ⟨layout, shown, rendered⟩ := more
  refine ⟨beside first layout, fun spans laid => ?_, fun marks ends => ?_⟩
  · obtain ⟨earlier, later, laidFirst, laidMore, rfl⟩ := result_of_beside laid
    exact shows earlier later laidFirst (shown later laidMore)
  · rw [renderList_cons ends, renders marks ends, rendered, decorated_beside]

theorem decorated_text (marks : Element → String × String) (value : String) :
    decorated marks (.ok [.text value]) = .ok value := by
  simp only [decorated, Outcome.ok_andThen, Span.decorate, Span.decorateOne, String.append_empty]

theorem LaidOut.text (value : String) (more : LaidOut setting rest) :
    LaidOut setting (.text value :: rest) := by
  refine more.cons (.ok [.text value]) (fun spans later laid shown => ?_) fun marks ends => ?_
  · cases laid
    exact .text shown
  · exact (decorated_text marks value).symm

theorem LaidOut.tag (name : String) (attributes : List (String × Option String))
    {children : List Node} (inside : LaidOut setting children) (more : LaidOut setting rest) :
    LaidOut setting (.tag name attributes children :: rest) := by
  obtain ⟨layout, shown, rendered⟩ := inside
  let element : Element := ⟨name, attributes, children⟩
  refine more.cons (layout.andThen fun inside => .ok [.tagged element inside])
    (fun spans later laid shownMore => ?_) fun marks ends => ?_
  · obtain ⟨_ | inside, records⟩ := layout
    · contradiction
    · cases laid
      exact .tag (shown inside rfl) shownMore
  · have wrapped : (setting.marked marks).wrap element =
        .ok ⟨(marks element).1, children, (marks element).2⟩ := rfl
    rw [renderNode, renderTag_of_wrapping wrapped, rendered, decorated_tagged]

theorem decorated_recover (marks : Element → String × String) (argument kind : String)
    (error : Error) :
    decorated marks ((setting.recover argument kind error).andThen fun _ => .ok []) =
      setting.recover argument kind error := by
  unfold Setting.recover
  split <;> rfl

theorem nothing_of_recover {argument kind : String} {error : Error} {spans : List Span}
    (laid : ((setting.recover argument kind error).andThen fun _ => .ok []).result = .ok spans) :
    spans = [] := by
  unfold Setting.recover at laid
  split at laid
  · contradiction
  · cases laid
    rfl

theorem LaidOut.directive (directive : Directive)
    (each : ∀ nodes, setting.format directive = .ok (.nodes nodes) → LaidOut setting nodes)
    (more : LaidOut setting rest) : LaidOut setting (directive.toNode :: rest) := by
  cases formatted : setting.format directive with
  | error error =>
      refine more.cons
        ((setting.recover directive.argument directive.kind error).andThen fun _ => .ok [])
        (fun spans later laid shown => ?_) fun marks ends => ?_
      · have nothing : spans = [] := nothing_of_recover laid
        rw [nothing]
        exact .failing formatted shown
      · have failed : (setting.marked marks).format directive = .error error := formatted
        rw [renderNode_toNode, renderDirective_of_error failed]
        exact (decorated_recover ..).symm
  | ok found =>
      cases found with
      | text text =>
          refine more.cons (.ok [.text text]) (fun spans later laid shown => ?_)
            fun marks ends => ?_
          · cases laid
            exact .written formatted shown
          · have written : (setting.marked marks).format directive = .ok (.text text) := formatted
            rw [renderNode_toNode, renderDirective_of_text written]
            exact (decorated_text ..).symm
      | nodes nodes =>
          obtain ⟨layout, shown, rendered⟩ := each nodes formatted
          refine more.cons layout (fun spans later laid shownMore => ?_) fun marks ends => ?_
          · exact .chosen formatted (shown spans laid) shownMore
          · have chosen : (setting.marked marks).format directive = .ok (.nodes nodes) := formatted
            rw [renderNode_toNode, renderDirective_of_nodes chosen, rendered]

section Formatters

variable (formatters : ∀ entry ∈ setting.registry, entry.2.IsBuiltin)

include formatters

theorem Setting.marked_ends (marks : Element → String × String) (nodes : List Node) :
    (setting.marked marks).Ends nodes := by
  have same : ∀ entry ∈ (setting.marked marks).registry, entry.2.IsBuiltin := formatters
  refine Setting.ends same (fun element wrapping wrapped => ?_) nodes
  cases wrapped
  rfl

/-- With built-in formatters every message has one layout. -/
theorem laidOut (nodes : List Node) : LaidOut setting nodes := by
  induction nodes using Node.list_induction with
  | nil =>
      refine ⟨.ok [], fun spans laid => ?_, fun marks ends => ?_⟩
      · cases laid
        exact .nil
      · rw [renderList_nil]
        rfl
  | text value rest ih => exact ih.text value
  | format argument kind style rest ih =>
      refine LaidOut.directive ⟨argument, kind, .styled style⟩ (fun nodes formatted => ?_) ih
      exact absurd formatted (Setting.styled_ne_nodes formatters)
  | message argument kind branches rest each ih =>
      refine LaidOut.directive ⟨argument, kind, .branched branches⟩ (fun nodes formatted => ?_) ih
      obtain ⟨key, member⟩ := Setting.mem_of_nodes formatters formatted
      exact each key nodes member
  | tag name attributes children rest inside ih => exact LaidOut.tag name attributes inside ih

theorem renderList_untag_directive {marks : Element → String × String} (directive : Directive)
    (each : ∀ nodes, setting.format directive = .ok (.nodes nodes) →
      ∀ ends ends', renderList (setting.marked marks) (untag nodes) ends =
        renderList (setting.marked fun _ => ("", "")) nodes ends')
    (more : ∀ ends ends', renderList (setting.marked marks) (untag rest) ends =
      renderList (setting.marked fun _ => ("", "")) rest ends') :
    ∀ ends ends', renderList (setting.marked marks) (untag (directive.toNode :: rest)) ends =
      renderList (setting.marked fun _ => ("", "")) (directive.toNode :: rest) ends' := by
  have untagged := Setting.format_mapBranches formatters untag directive
  rw [Node.untag_directive]
  intro ends ends'
  cases formatted : setting.format directive with
  | error error =>
      rw [formatted] at untagged
      have failed : (setting.marked marks).format (directive.mapBranches untag) = .error error :=
        untagged
      have failed' : (setting.marked fun _ => ("", "")).format directive = .error error := formatted
      rw [renderList_of_error failed, renderList_of_error failed', more,
        Directive.mapBranches_argument, Directive.mapBranches_kind]
      rfl
  | ok found =>
      rw [formatted] at untagged
      cases found with
      | text text =>
          have written : (setting.marked marks).format (directive.mapBranches untag) =
            .ok (.text text) := untagged
          have written' : (setting.marked fun _ => ("", "")).format directive = .ok (.text text) :=
            formatted
          rw [renderList_of_text written, renderList_of_text written', more]
      | nodes nodes =>
          have chosen : (setting.marked marks).format (directive.mapBranches untag) =
            .ok (.nodes (untag nodes)) := untagged
          have chosen' : (setting.marked fun _ => ("", "")).format directive = .ok (.nodes nodes) :=
            formatted
          rw [renderList_of_nodes chosen, renderList_of_nodes chosen', each nodes formatted, more]

/-- A message in which tags have given way to their children is rendered to the same text and
records as the message itself by a tag formatter without marks. -/
theorem renderList_untag (nodes : List Node) :
    ∀ marks ends ends', renderList (setting.marked marks) (untag nodes) ends =
      renderList (setting.marked fun _ => ("", "")) nodes ends' := by
  intro marks
  induction nodes using Node.list_induction with
  | nil =>
      intro ends ends'
      exact (renderList_nil ends).trans (renderList_nil ends').symm
  | text value rest ih =>
      rw [Node.untag_text]
      intro ends ends'
      rw [renderList_text, renderList_text, ih]
  | format argument kind style rest ih =>
      refine renderList_untag_directive formatters ⟨argument, kind, .styled style⟩
        (fun nodes formatted => ?_) ih
      exact absurd formatted (Setting.styled_ne_nodes formatters)
  | message argument kind branches rest each ih =>
      refine renderList_untag_directive formatters ⟨argument, kind, .branched branches⟩
        (fun nodes formatted => ?_) ih
      obtain ⟨key, member⟩ := Setting.mem_of_nodes formatters formatted
      exact each key nodes member
  | tag name attributes children rest inside ih =>
      rw [Node.untag_tag]
      intro ends ends'
      have wrapped : (setting.marked fun _ => ("", "")).wrap ⟨name, attributes, children⟩ =
          .ok ⟨"", children, ""⟩ := rfl
      obtain ⟨endsInside, endsRest⟩ := Setting.ends_append.mp ends
      rw [renderList_append endsInside endsRest, renderList_of_wrapping wrapped,
        Outcome.ok_empty_append, Outcome.append_ok_empty,
        inside _ (ends'.inv (.enter (.tag wrapped))), ih]

end Formatters

end Render

namespace Engine

/-- With built-in formatters, tags for hypertext, marks of plain text and no marks at all decorate
one layout, with the same records, or the renderings fail alike. Without marks the text is that of
the message in which tags have given way to their children. -/
theorem tags_are_decoration {engine : Engine}
    (formatters : ∀ entry ∈ engine.registry, entry.2.IsBuiltin) (locale : String)
    (path : Option String) (arguments : Arguments) (nodes : List Node) :
    let html := { engine with tagStyle := .html, customTags := none }
    let markdown := { engine with tagStyle := .markdown, customTags := none }
    let bare := { engine with customTags := some .bare }
    ∃ htmlEnds markdownEnds bareEnds,
      let hypertext := html.render locale path arguments nodes htmlEnds
      let marked := markdown.render locale path arguments nodes markdownEnds
      let unmarked := bare.render locale path arguments nodes bareEnds
      (∀ other ∈ [html, markdown, bare],
        ∃ ends, other.render locale path arguments (Node.untag nodes) ends = unmarked) ∧
      ((∃ spans records, (engine.setting locale path arguments).Shows nodes spans ∧
          hypertext = ⟨.ok (Span.decorate htmlMarks spans), records⟩ ∧
          marked = ⟨.ok (Span.decorate marksOf spans), records⟩ ∧
          unmarked = ⟨.ok (Span.plain spans), records⟩) ∨
        ∃ error records, hypertext = ⟨.error error, records⟩ ∧
          marked = ⟨.error error, records⟩ ∧ unmarked = ⟨.error error, records⟩) := by
  intro html markdown bare
  let setting := engine.setting locale path arguments
  have formatters : ∀ entry ∈ setting.registry, entry.2.IsBuiltin := formatters
  have ends (marks : Element → String × String) (nodes : List Node) :
      (setting.marked marks).Ends nodes :=
    Setting.marked_ends formatters marks nodes
  have untagged (marks : Element → String × String) :=
    renderList_untag formatters nodes marks (ends marks _) (ends _ nodes)
  refine ⟨ends htmlMarks nodes, ends marksOf nodes, ends _ nodes, fun other member => ?_, ?_⟩
  · simp only [List.mem_cons, List.not_mem_nil, or_false] at member
    rcases member with rfl | rfl | rfl
    · exact ⟨_, untagged htmlMarks⟩
    · exact ⟨_, untagged marksOf⟩
    · exact ⟨_, untagged _⟩
  · obtain ⟨⟨_ | spans, records⟩, shown, rendered⟩ := laidOut formatters nodes
    · rename_i error
      refine Or.inr ⟨error, records, ?_, ?_, ?_⟩
      · exact rendered htmlMarks _
      · exact rendered marksOf _
      · exact rendered _ _
    · have written (marks : Element → String × String) :
          renderList (setting.marked marks) nodes (ends marks nodes) =
            ⟨.ok (Span.decorate marks spans), records⟩ := by
        rw [rendered]
        simp only [decorated, Outcome.andThen, Outcome.ok, List.append_nil]
      have plain := written fun _ => ("", "")
      rw [Span.decorate_bare] at plain
      exact Or.inl ⟨spans, records, shown spans rfl, written htmlMarks, written marksOf, plain⟩

/-- A link without an address, inside a branch. -/
theorem link_is_decoration :
    let engine : Engine := { strict := true }
    let html := { engine with tagStyle := .html, customTags := none }
    let markdown := { engine with tagStyle := .markdown, customTags := none }
    let bare := { engine with customTags := some .bare }
    let nodes := [.message "n" "select"
      [("x", [.tag "a" [("name", some "top")] [.tag "b" [] [.text "Top"], .text "!"]])]]
    let arguments := [("n", .text "x")]
    Node.untag nodes = [.message "n" "select" [("x", [.text "Top", .text "!"])]] ∧
      ∃ htmlEnds markdownEnds bareEnds untaggedEnds,
        bare.render "en" none arguments (Node.untag nodes) untaggedEnds =
          bare.render "en" none arguments nodes bareEnds ∧
        ((∃ spans records, (engine.setting "en" none arguments).Shows nodes spans ∧
            html.render "en" none arguments nodes htmlEnds =
              ⟨.ok (Span.decorate htmlMarks spans), records⟩ ∧
            markdown.render "en" none arguments nodes markdownEnds =
              ⟨.ok (Span.decorate marksOf spans), records⟩ ∧
            bare.render "en" none arguments nodes bareEnds =
              ⟨.ok (Span.plain spans), records⟩) ∨
          ∃ error records,
            html.render "en" none arguments nodes htmlEnds = ⟨.error error, records⟩ ∧
            markdown.render "en" none arguments nodes markdownEnds = ⟨.error error, records⟩ ∧
            bare.render "en" none arguments nodes bareEnds = ⟨.error error, records⟩) := by
  intro engine html markdown bare nodes arguments
  refine ⟨by decide +kernel, ?_⟩
  have formatters : ∀ entry ∈ engine.registry, entry.2.IsBuiltin := Registry.builtin_isBuiltin
  obtain ⟨htmlEnds, markdownEnds, bareEnds, untagged, alike⟩ :=
    tags_are_decoration formatters "en" none arguments nodes
  obtain ⟨untaggedEnds, same⟩ := untagged bare (by simp [bare])
  exact ⟨htmlEnds, markdownEnds, bareEnds, untaggedEnds, same, alike⟩

end Engine

end Parlance
