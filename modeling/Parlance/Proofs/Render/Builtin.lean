import Parlance.Engine
import Parlance.Proofs.Format.Builtin
import Parlance.Proofs.Render.Equations

namespace Parlance

/-! # Renderings by built-in formatters

Built-in formatters go on with branches of the directive, and built-in tag formatters with the
children of the tag. So the rendering follows the structure of the message and always ends.
-/

namespace Node

section Induction

variable {motive : List Node → Prop}
  (nil : motive [])
  (text : ∀ value rest, motive rest → motive (.text value :: rest))
  (format : ∀ argument kind style rest, motive rest →
    motive (.format argument kind style :: rest))
  (message : ∀ argument kind branches rest,
    (∀ key nodes, (key, nodes) ∈ branches → motive nodes) → motive rest →
      motive (.message argument kind branches :: rest))
  (tag : ∀ name attributes children rest, motive children → motive rest →
    motive (.tag name attributes children :: rest))

include nil text format message tag

/-- A property of messages holds of all if it passes on from the branches, the children and the
rest of a message. -/
theorem list_induction : ∀ nodes, motive nodes
  | [] => nil
  | .text value :: rest => text value rest (list_induction rest)
  | .format argument kind style :: rest => format argument kind style rest (list_induction rest)
  | .message argument kind branches :: rest => by
      refine message argument kind branches rest (fun key nodes member => ?_)
        (list_induction rest)
      have smaller := List.sizeOf_lt_of_mem member
      exact list_induction nodes
  | .tag name attributes children :: rest =>
    tag name attributes children rest (list_induction children) (list_induction rest)
termination_by nodes => sizeOf nodes
decreasing_by
  all_goals
    simp only [List.cons.sizeOf_spec, Node.message.sizeOf_spec, Node.tag.sizeOf_spec,
      Prod.mk.sizeOf_spec] at *
    omega

end Induction

end Node

namespace Render

open Parlance.Format Parlance.Markup

namespace Setting

/-- All formatters are built-in ones, under any kinds, and so is the formatter of tags. -/
structure IsBuiltin (setting : Setting) : Prop where
  formatters : ∀ entry ∈ setting.registry, entry.2.IsBuiltin
  tags : setting.tags = .html ∨ setting.tags = .markdown

variable {setting : Setting} {argument kind name : String} {style : Option String}
  {branches : List (String × List Node)} {nodes : List Node}
  {attributes : List (String × Option String)}

section Formatters

variable (formatters : ∀ entry ∈ setting.registry, entry.2.IsBuiltin)

include formatters

theorem styled_ne_nodes : setting.format ⟨argument, kind, .styled style⟩ ≠ .ok (.nodes nodes) := by
  unfold Setting.format
  split
  · exact fun formatted => nomatch formatted
  · rename_i formatter found
    exact (formatters _ (Keyed.mem_of_find? found)).styled_ne_nodes

theorem mem_of_nodes
    (formatted : setting.format ⟨argument, kind, .branched branches⟩ = .ok (.nodes nodes)) :
    ∃ key, (key, nodes) ∈ branches := by
  unfold Setting.format at formatted
  split at formatted
  · contradiction
  · rename_i formatter found
    exact (formatters _ (Keyed.mem_of_find? found)).mem_of_nodes formatted

theorem format_mapBranches (change : List Node → List Node) (directive : Directive) :
    setting.format (directive.mapBranches change) =
      (setting.format directive).map (Formatted.mapNodes change) := by
  obtain ⟨argument, kind, shape⟩ := directive
  cases shape with
  | styled style =>
      cases formatted : setting.format ⟨argument, kind, .styled style⟩ with
      | error error => exact formatted
      | ok found =>
          cases found with
          | text value => exact formatted
          | nodes nodes => exact absurd formatted (styled_ne_nodes formatters)
  | branched branches =>
      unfold Setting.format Directive.mapBranches
      cases found : setting.registry.find? kind with
      | none => rfl
      | some formatter =>
          exact (formatters _ (Keyed.mem_of_find? found)).format_mapValues change

/-- The rendering of a message ends if the tag formatter keeps the children of every tag. -/
theorem ends
    (keeps : ∀ element wrapping, setting.wrap element = .ok wrapping →
      wrapping.children = element.children)
    (nodes : List Node) : setting.Ends nodes := by
  induction nodes using Node.list_induction with
  | nil => exact ends_nil
  | text value rest ih => exact ends_text ih value
  | format argument kind style rest ih =>
      refine ends_cons.mpr ⟨fun inner entered => ?_, ih⟩
      cases entered with
      | format formatted => exact absurd formatted (styled_ne_nodes formatters)
  | message argument kind branches rest each ih =>
      refine ends_cons.mpr ⟨fun inner entered => ?_, ih⟩
      cases entered with
      | message formatted =>
          obtain ⟨key, member⟩ := mem_of_nodes formatters formatted
          exact each key inner member
  | tag name attributes children rest inside ih =>
      refine ends_cons.mpr ⟨fun inner entered => ?_, ih⟩
      cases entered with
      | tag wrapped =>
          rw [keeps _ _ wrapped]
          exact inside

end Formatters

namespace IsBuiltin

theorem styled_ne_nodes (builtin : setting.IsBuiltin) :
    setting.format ⟨argument, kind, .styled style⟩ ≠ .ok (.nodes nodes) :=
  Setting.styled_ne_nodes builtin.formatters

theorem mem_of_nodes (builtin : setting.IsBuiltin)
    (formatted : setting.format ⟨argument, kind, .branched branches⟩ = .ok (.nodes nodes)) :
    ∃ key, (key, nodes) ∈ branches :=
  Setting.mem_of_nodes builtin.formatters formatted

theorem format_mapBranches (builtin : setting.IsBuiltin) (change : List Node → List Node)
    (directive : Directive) :
    setting.format (directive.mapBranches change) =
      (setting.format directive).map (Formatted.mapNodes change) :=
  Setting.format_mapBranches builtin.formatters change directive

/-- The texts around the children of a tag do not depend on the children. -/
theorem exists_wrap (builtin : setting.IsBuiltin) (name : String)
    (attributes : List (String × Option String)) :
    ∃ opening closing, ∀ children,
      setting.wrap ⟨name, attributes, children⟩ = .ok ⟨opening, children, closing⟩ := by
  rcases builtin.tags with html | markdown
  · refine ⟨openingTag ⟨name, attributes, []⟩, closingTag ⟨name, attributes, []⟩, ?_⟩
    intro children
    rw [Setting.wrap, html]
    rfl
  · refine ⟨(marksOf ⟨name, attributes, []⟩).1, (marksOf ⟨name, attributes, []⟩).2, ?_⟩
    intro children
    rw [Setting.wrap, markdown]
    rfl

/-- A built-in tag formatter never fails, and it keeps the children of every tag. -/
theorem wrap_keeps_children (builtin : setting.IsBuiltin) (element : Element) :
    ∃ opening closing, setting.wrap element = .ok ⟨opening, element.children, closing⟩ := by
  obtain ⟨opening, closing, wrap⟩ := builtin.exists_wrap element.name element.attributes
  exact ⟨opening, closing, wrap element.children⟩

/-- The rendering of every message ends. -/
theorem ends (builtin : setting.IsBuiltin) (nodes : List Node) : setting.Ends nodes := by
  refine Setting.ends builtin.formatters (fun element wrapping wrapped => ?_) nodes
  obtain ⟨opening, closing, kept⟩ := builtin.wrap_keeps_children element
  cases kept.symm.trans wrapped
  rfl

end IsBuiltin

end Setting

end Render

namespace Engine

open Parlance.Format Parlance.Markup

/-- All formatters of the engine are built-in ones. -/
structure IsBuiltin (engine : Engine) : Prop where
  formatters : ∀ entry ∈ engine.registry, entry.2.IsBuiltin
  tags : engine.tags = .html ∨ engine.tags = .markdown

theorem IsBuiltin.setting {engine : Engine} (builtin : engine.IsBuiltin) (locale : String)
    (path : Option String) (arguments : Arguments) :
    (engine.setting locale path arguments).IsBuiltin :=
  ⟨builtin.formatters, builtin.tags⟩

/-- An engine with built-in formatters, made strict or lenient. -/
theorem IsBuiltin.strictness {engine : Engine} (builtin : engine.IsBuiltin) (strict : Bool) :
    { engine with strict := strict }.IsBuiltin :=
  ⟨builtin.formatters, builtin.tags⟩

theorem IsBuiltin.ends {engine : Engine} (builtin : engine.IsBuiltin) (locale : String)
    (path : Option String) (arguments : Arguments) (nodes : List Node) :
    (engine.setting locale path arguments).Ends nodes :=
  (builtin.setting locale path arguments).ends nodes

theorem IsBuiltin.format_ends {engine : Engine} (builtin : engine.IsBuiltin) (locale : String)
    (path : Option String) (arguments : Arguments) (pattern : String) :
    engine.Ends locale path arguments pattern :=
  fun message _ => builtin.ends locale path arguments message.nodes

/-- An engine with the default registry and no tag formatter of its own. -/
theorem default_isBuiltin (strict : Bool) (style : TagStyle) (categories : Plural.Categories) :
    IsBuiltin { strict, tagStyle := style, categories } where
  formatters := Registry.builtin_isBuiltin
  tags := by
    cases style with
    | html => exact Or.inl rfl
    | markdown => exact Or.inr rfl

end Engine

end Parlance
