import Parlance.Format.Formatter
import Parlance.Markup.TagFormatter
import Parlance.Render.Outcome

namespace Parlance.Render

open Parlance.Format Parlance.Markup

/-! # Rendering messages

Nodes are rendered from left to right. A directive goes to the formatter of its kind, and
nodes that the formatter goes on with are rendered in its place. A failure ends the rendering
if it is strict; otherwise it is recorded, and the node that failed is left out. Formatters are
free to go on for ever, so only a message whose rendering ends has an outcome.
-/

structure Setting where
  registry : Registry
  tags : TagFormatter
  strict : Bool
  context : Context
  arguments : Arguments

def tagKind : String := "tag"

/-- A node is rendered by the rendering of a message: the nodes that a formatter goes on with,
or the children of a tag. -/
inductive Enters (format : Directive → Except Error Formatted)
    (wrap : Element → Except Error Wrapping) : Node → List Node → Prop
  | format (formatted : format ⟨argument, kind, .styled style⟩ = .ok (.nodes nodes)) :
      Enters format wrap (.format argument kind style) nodes
  | message (formatted : format ⟨argument, kind, .branched branches⟩ = .ok (.nodes nodes)) :
      Enters format wrap (.message argument kind branches) nodes
  | tag (wrapped : wrap ⟨name, attributes, children⟩ = .ok wrapping) :
      Enters format wrap (.tag name attributes children) wrapping.children

/-- The rendering of a message comes to another one, for its first node or behind it. -/
inductive LeadsTo (format : Directive → Except Error Formatted)
    (wrap : Element → Except Error Wrapping) : (later earlier : List Node) → Prop
  | rest : LeadsTo format wrap rest (node :: rest)
  | enter {inner : List Node} (entered : Enters format wrap node inner) :
      LeadsTo format wrap inner (node :: rest)

namespace Setting

def format (setting : Setting) (directive : Directive) : Except Error Formatted :=
  match setting.registry.find? directive.kind with
  | none => .error (.unknownKind directive.kind directive.argument)
  | some formatter => formatter.format setting.context directive setting.arguments

def wrap (setting : Setting) (element : Element) : Except Error Wrapping :=
  setting.tags.wrap setting.context element setting.arguments

def recover (setting : Setting) (argument kind : String) (error : Error) : Outcome String :=
  if setting.strict then .error error
  else .recorded "" (.omitted (setting.context.path.getD "") argument kind error)

/-- The rendering of the message ends. -/
abbrev Ends (setting : Setting) (nodes : List Node) : Prop :=
  Acc (LeadsTo setting.format setting.wrap) nodes

instance (setting : Setting) : WellFoundedRelation {nodes // setting.Ends nodes} where
  rel later earlier := LeadsTo setting.format setting.wrap later.1 earlier.1
  wf := by
    refine ⟨fun ⟨nodes, ends⟩ => ?_⟩
    induction ends with
    | intro nodes _ ih => exact ⟨_, fun later leads => ih later.1 leads⟩

end Setting

/-- The text of a directive. Nodes are rendered by `goOn`. -/
def renderDirective (setting : Setting) (directive : Directive)
    (goOn : ∀ nodes, setting.format directive = .ok (.nodes nodes) → Outcome String) :
    Outcome String :=
  match formatted : setting.format directive with
  | .error error => setting.recover directive.argument directive.kind error
  | .ok (.text text) => .ok text
  | .ok (.nodes nodes) => goOn nodes formatted

/-- The text of a tag. Its children are rendered by `goOn`. -/
def renderTag (setting : Setting) (element : Element)
    (goOn : ∀ wrapping, setting.wrap element = .ok wrapping → Outcome String) : Outcome String :=
  match wrapped : setting.wrap element with
  | .error error => setting.recover element.name tagKind error
  | .ok wrapping =>
    ((Outcome.ok wrapping.opening).append (goOn wrapping wrapped)).append (.ok wrapping.closing)

/-- The text of a node. Messages are rendered by `goOn`. -/
def renderNode (setting : Setting) (node : Node)
    (goOn : ∀ inner, Enters setting.format setting.wrap node inner → Outcome String) :
    Outcome String :=
  match node with
  | .text value => .ok value
  | .format argument kind style =>
    renderDirective setting ⟨argument, kind, .styled style⟩
      fun nodes formatted => goOn nodes (.format formatted)
  | .message argument kind branches =>
    renderDirective setting ⟨argument, kind, .branched branches⟩
      fun nodes formatted => goOn nodes (.message formatted)
  | .tag name attributes children =>
    renderTag setting ⟨name, attributes, children⟩
      fun wrapping wrapped => goOn wrapping.children (.tag wrapped)

def renderList (setting : Setting) (nodes : List Node) (ends : setting.Ends nodes) :
    Outcome String :=
  match nodes, ends with
  | [], _ => .ok ""
  | node :: rest, ends =>
    (renderNode setting node fun inner entered =>
        renderList setting inner (ends.inv (.enter entered))).append
      (renderList setting rest (ends.inv .rest))
termination_by (⟨nodes, ends⟩ : {nodes // setting.Ends nodes})
decreasing_by
  · exact .enter entered
  · exact .rest

end Parlance.Render
