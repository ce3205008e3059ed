import Parlance.Engine

namespace Parlance.Render

open Parlance.Format Parlance.Markup

/-! # What a rendering does

The equations of the renderer, one for each way that a directive, a tag or a message can go, and
those of an engine that renders a pattern.
-/

variable {setting : Setting}

section Directives

variable {directive : Directive}
  {goOn : ∀ nodes, setting.format directive = .ok (.nodes nodes) → Outcome String}

theorem renderDirective_eq {found : Except Error Formatted}
    (formatted : setting.format directive = found) :
    renderDirective setting directive goOn =
      match found, formatted with
      | .error error, _ => setting.recover directive.argument directive.kind error
      | .ok (.text text), _ => .ok text
      | .ok (.nodes nodes), formatted => goOn nodes formatted := by
  unfold renderDirective
  split <;> rename_i same <;> cases formatted.symm.trans same <;> rfl

theorem renderDirective_of_error {error : Error} (failed : setting.format directive = .error error) :
    renderDirective setting directive goOn =
      setting.recover directive.argument directive.kind error :=
  renderDirective_eq failed

theorem renderDirective_of_text {text : String}
    (formatted : setting.format directive = .ok (.text text)) :
    renderDirective setting directive goOn = .ok text :=
  renderDirective_eq formatted

theorem renderDirective_of_nodes {nodes : List Node}
    (formatted : setting.format directive = .ok (.nodes nodes)) :
    renderDirective setting directive goOn = goOn nodes formatted :=
  renderDirective_eq formatted

end Directives

section Tags

variable {element : Element}
  {goOn : ∀ wrapping, setting.wrap element = .ok wrapping → Outcome String}

theorem renderTag_eq {found : Except Error Wrapping} (wrapped : setting.wrap element = found) :
    renderTag setting element goOn =
      match found, wrapped with
      | .error error, _ => setting.recover element.name tagKind error
      | .ok wrapping, wrapped =>
        ((Outcome.ok wrapping.opening).append (goOn wrapping wrapped)).append
          (.ok wrapping.closing) := by
  unfold renderTag
  split <;> rename_i same <;> cases wrapped.symm.trans same <;> rfl

theorem renderTag_of_error {error : Error} (failed : setting.wrap element = .error error) :
    renderTag setting element goOn = setting.recover element.name tagKind error :=
  renderTag_eq failed

theorem renderTag_of_wrapping {wrapping : Wrapping}
    (wrapped : setting.wrap element = .ok wrapping) :
    renderTag setting element goOn =
      ((Outcome.ok wrapping.opening).append (goOn wrapping wrapped)).append
        (.ok wrapping.closing) :=
  renderTag_eq wrapped

end Tags

theorem renderList_nil (ends : setting.Ends []) : renderList setting [] ends = .ok "" := by
  rw [renderList]

theorem renderList_cons {node : Node} {rest : List Node} (ends : setting.Ends (node :: rest)) :
    renderList setting (node :: rest) ends =
      (renderNode setting node fun inner entered =>
          renderList setting inner (ends.inv (.enter entered))).append
        (renderList setting rest (ends.inv .rest)) := by
  rw [renderList]

theorem Setting.ends_nil : setting.Ends [] :=
  ⟨_, fun _ leads => nomatch leads⟩

theorem Setting.ends_cons {node : Node} {rest : List Node} :
    setting.Ends (node :: rest) ↔
      (∀ inner, Enters setting.format setting.wrap node inner → setting.Ends inner) ∧
        setting.Ends rest := by
  constructor
  · intro ends
    exact ⟨fun inner entered => ends.inv (.enter entered), ends.inv .rest⟩
  · intro ⟨each, more⟩
    refine ⟨_, fun later leads => ?_⟩
    cases leads with
    | rest => exact more
    | enter entered => exact each later entered

theorem Setting.ends_append {first second : List Node} :
    setting.Ends (first ++ second) ↔ setting.Ends first ∧ setting.Ends second := by
  induction first with
  | nil => simp only [List.nil_append, Setting.ends_nil, true_and]
  | cons node rest ih => rw [List.cons_append, ends_cons, ih, ends_cons, and_assoc]

theorem Setting.ends_text {rest : List Node} (ends : setting.Ends rest) (value : String) :
    setting.Ends (.text value :: rest) :=
  ends_cons.mpr ⟨fun _ entered => (nomatch entered), ends⟩

theorem renderList_append {first second : List Node} (endsFirst : setting.Ends first)
    (endsSecond : setting.Ends second) (ends : setting.Ends (first ++ second)) :
    renderList setting (first ++ second) ends =
      (renderList setting first endsFirst).append (renderList setting second endsSecond) := by
  induction first with
  | nil =>
      rw [renderList_nil, Outcome.ok_empty_append]
      rfl
  | cons node rest ih =>
      have ih := ih (endsFirst.inv .rest) (ends.inv .rest)
      simp only [List.cons_append, renderList_cons, ih, Outcome.append_assoc]

section Messages

variable {directive : Directive} {inner rest : List Node}

theorem Enters.ofDirective {nodes : List Node}
    (formatted : setting.format directive = .ok (.nodes nodes)) :
    Enters setting.format setting.wrap directive.toNode nodes := by
  obtain ⟨argument, kind, shape⟩ := directive
  cases shape with
  | styled style => exact .format formatted
  | branched branches => exact .message formatted

theorem enters_toNode_iff :
    Enters setting.format setting.wrap directive.toNode inner ↔
      setting.format directive = .ok (.nodes inner) := by
  constructor
  · intro entered
    obtain ⟨argument, kind, shape⟩ := directive
    cases shape with
    | styled style =>
        cases entered with
        | format formatted => exact formatted
    | branched branches =>
        cases entered with
        | message formatted => exact formatted
  · exact .ofDirective

/-- The rendering of a directive ends with that of the nodes that its formatter goes on with. -/
theorem Setting.ends_directive :
    setting.Ends (directive.toNode :: rest) ↔
      (∀ nodes, setting.format directive = .ok (.nodes nodes) → setting.Ends nodes) ∧
        setting.Ends rest := by
  simp only [ends_cons, enters_toNode_iff]

theorem Setting.ends_of_formatted {found : Except Error Formatted}
    (formatted : setting.format directive = found) (final : ∀ nodes, found ≠ .ok (.nodes nodes))
    (ends : setting.Ends rest) : setting.Ends (directive.toNode :: rest) :=
  ends_directive.mpr ⟨fun nodes same => absurd (formatted.symm.trans same) (final nodes), ends⟩

theorem renderNode_toNode
    {goOn : ∀ inner, Enters setting.format setting.wrap directive.toNode inner → Outcome String} :
    renderNode setting directive.toNode goOn =
      renderDirective setting directive
        (fun nodes formatted => goOn nodes (.ofDirective formatted)) := by
  obtain ⟨argument, kind, shape⟩ := directive
  cases shape <;> rfl

theorem renderList_text {value : String} (ends : setting.Ends (.text value :: rest)) :
    renderList setting (.text value :: rest) ends =
      (Outcome.ok value).append (renderList setting rest (ends.inv .rest)) :=
  renderList_cons ends

theorem renderList_of_error {error : Error} (failed : setting.format directive = .error error)
    (ends : setting.Ends (directive.toNode :: rest)) :
    renderList setting (directive.toNode :: rest) ends =
      (setting.recover directive.argument directive.kind error).append
        (renderList setting rest (ends.inv .rest)) := by
  rw [renderList_cons, renderNode_toNode, renderDirective_of_error failed]

theorem renderList_of_text {text : String}
    (formatted : setting.format directive = .ok (.text text))
    (ends : setting.Ends (directive.toNode :: rest)) :
    renderList setting (directive.toNode :: rest) ends =
      (Outcome.ok text).append (renderList setting rest (ends.inv .rest)) := by
  rw [renderList_cons, renderNode_toNode, renderDirective_of_text formatted]

theorem renderList_of_nodes {nodes : List Node}
    (formatted : setting.format directive = .ok (.nodes nodes))
    (ends : setting.Ends (directive.toNode :: rest)) :
    renderList setting (directive.toNode :: rest) ends =
      (renderList setting nodes (ends.inv (.enter (.ofDirective formatted)))).append
        (renderList setting rest (ends.inv .rest)) := by
  rw [renderList_cons, renderNode_toNode, renderDirective_of_nodes formatted]

section Tags

variable {name : String} {attributes : List (String × Option String)} {children : List Node}

theorem enters_tag_iff :
    Enters setting.format setting.wrap (.tag name attributes children) inner ↔
      ∃ wrapping, setting.wrap ⟨name, attributes, children⟩ = .ok wrapping ∧
        wrapping.children = inner := by
  constructor
  · intro entered
    cases entered with
    | tag wrapped => exact ⟨_, wrapped, rfl⟩
  · rintro ⟨wrapping, wrapped, rfl⟩
    exact .tag wrapped

/-- The rendering of a tag ends with that of what is put between its texts. -/
theorem Setting.ends_tag :
    setting.Ends (.tag name attributes children :: rest) ↔
      (∀ wrapping, setting.wrap ⟨name, attributes, children⟩ = .ok wrapping →
        setting.Ends wrapping.children) ∧ setting.Ends rest := by
  simp [ends_cons, enters_tag_iff]

theorem Setting.ends_of_wrapping {wrapping : Wrapping}
    (wrapped : setting.wrap ⟨name, attributes, children⟩ = .ok wrapping)
    (inside : setting.Ends wrapping.children) (ends : setting.Ends rest) :
    setting.Ends (.tag name attributes children :: rest) := by
  refine ends_tag.mpr ⟨fun other same => ?_, ends⟩
  cases wrapped.symm.trans same
  exact inside

theorem renderList_of_refused {error : Error}
    (refused : setting.wrap ⟨name, attributes, children⟩ = .error error)
    (ends : setting.Ends (.tag name attributes children :: rest)) :
    renderList setting (.tag name attributes children :: rest) ends =
      (setting.recover name tagKind error).append (renderList setting rest (ends.inv .rest)) := by
  rw [renderList_cons, renderNode, renderTag_of_error refused]

theorem renderList_of_wrapping {wrapping : Wrapping}
    (wrapped : setting.wrap ⟨name, attributes, children⟩ = .ok wrapping)
    (ends : setting.Ends (.tag name attributes children :: rest)) :
    renderList setting (.tag name attributes children :: rest) ends =
      (((Outcome.ok wrapping.opening).append
          (renderList setting wrapping.children (ends.inv (.enter (.tag wrapped))))).append
        (.ok wrapping.closing)).append (renderList setting rest (ends.inv .rest)) := by
  rw [renderList_cons, renderNode, renderTag_of_wrapping wrapped]

/-- Strictly, a tag fails with the directive that it begins with. -/
theorem result_of_wrapping {wrapping : Wrapping} {error : Error} {more : List Node}
    (strict : setting.strict = true)
    (wrapped : setting.wrap ⟨name, attributes, children⟩ = .ok wrapping)
    (begins : wrapping.children = directive.toNode :: more)
    (failed : setting.format directive = .error error)
    (ends : setting.Ends (.tag name attributes children :: rest)) :
    (renderList setting (.tag name attributes children :: rest) ends).result = .error error := by
  obtain ⟨opening, inside, closing⟩ := wrapping
  cases begins
  rw [renderList_of_wrapping wrapped, renderList_of_error failed, Setting.recover, if_pos strict]
  rfl

end Tags

end Messages

end Parlance.Render

namespace Parlance.Engine

open Parlance.Format Parlance.Render

variable {engine : Engine} {locale : String} {path : Option String} {arguments : Arguments}
  {pattern : String}

theorem parse_of_readNodes {nodes : List Node} (read : engine.readNodes pattern = .ok nodes) :
    Pattern.parse engine.registry.directiveKinds pattern = .ok nodes := by
  unfold readNodes at read
  cases parsed : Pattern.parse engine.registry.directiveKinds pattern with
  | error failure =>
      rw [parsed] at read
      cases read
  | ok message =>
      rw [parsed] at read
      cases read
      rfl

theorem format_of_error {error : Error} (failed : (engine.parse pattern).result = .error error)
    (ends : engine.Ends locale path arguments pattern) :
    engine.format locale path arguments pattern ends =
      ⟨.error error, (engine.parse pattern).records⟩ :=
  Outcome.andThenOf_of_error failed

theorem format_of_ok {message : Message} (parsed : (engine.parse pattern).result = .ok message)
    (ends : engine.Ends locale path arguments pattern) :
    let rendered := engine.renderMessage locale path arguments message (ends message parsed)
    engine.format locale path arguments pattern ends =
      ⟨rendered.result, (engine.parse pattern).records ++ rendered.records⟩ :=
  Outcome.andThenOf_of_ok parsed

end Parlance.Engine
