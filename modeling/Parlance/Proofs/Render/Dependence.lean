import Parlance.Proofs.Render.Relations

namespace Parlance.Render

open Parlance.Format Parlance.Markup

/-! # What a rendering depends on

A rendering by built-in formatters looks at the arguments that its directives name and at no
others. It looks at the locale and at the rules of plural forms only where a directive goes to
a formatter that chooses by them, and it uses the path of the message only for its records.
-/

/-- The record with a path of its own for the message. -/
def Record.withPath (path : String) : Record → Record
  | .omitted _ argument kind error => .omitted path argument kind error
  | other => other

def Outcome.withPath (path : String) (outcome : Outcome String) : Outcome String :=
  ⟨outcome.result, outcome.records.map (Record.withPath path)⟩

theorem Outcome.withPath_append (path : String) (first second : Outcome String) :
    (first.append second).withPath path = (first.withPath path).append (second.withPath path) := by
  obtain ⟨result, records⟩ := first
  obtain ⟨result', records'⟩ := second
  cases result with
  | error error => rfl
  | ok text =>
      cases result' with
      | error error => simp only [append, andThen, withPath, List.map_append]
      | ok more => simp only [append_ok, withPath, List.map_append]

namespace Setting

/-- For the directive the other context and the other arguments look the same. -/
structure LooksSame (setting : Setting) (context : Context) (arguments : Arguments)
    (directive : Directive) : Prop where
  named : Keyed.find? setting.arguments directive.argument =
    Keyed.find? arguments directive.argument
  categories : ∀ kind, setting.registry.find? directive.kind = some (.plural kind) →
    ∀ number, setting.context.category kind number = context.category kind number

variable {setting : Setting} {context : Context} {arguments : Arguments} {nodes : List Node}

theorem LooksSame.refl (setting : Setting) (directive : Directive) :
    setting.LooksSame setting.context setting.arguments directive :=
  ⟨rfl, fun _ _ _ => rfl⟩

theorem LooksSame.format_eq {directive : Directive} (builtin : setting.IsBuiltin)
    (looks : setting.LooksSame context arguments directive) :
    setting.format directive =
      { setting with context := context, arguments := arguments }.format directive := by
  unfold Setting.format
  cases found : setting.registry.find? directive.kind with
  | none => rfl
  | some formatter =>
      have known : formatter.IsBuiltin := builtin.formatters _ (Keyed.mem_of_find? found)
      refine known.format_congr looks.named fun kind same => looks.categories kind ?_
      rw [found, same]

section Renderings

variable (context : Context) (arguments : Arguments)

theorem IsBuiltin.wrap_eq (builtin : setting.IsBuiltin) (element : Element) :
    setting.wrap element =
      { setting with context := context, arguments := arguments }.wrap element := by
  unfold Setting.wrap
  rcases builtin.tags with html | markdown
  · rw [html]
    rfl
  · rw [markdown]
    rfl

theorem IsBuiltin.keeps_withPath (builtin : setting.IsBuiltin)
    (looks : ∀ directive, setting.Visits directive.toNode nodes →
      setting.LooksSame context arguments directive) :
    Keeps (fun first second => second = first.withPath (context.path.getD ""))
      setting { setting with context := context, arguments := arguments } nodes where
  formats directive visits := (looks directive visits).format_eq builtin
  wraps := builtin.wrap_eq context arguments
  text _ := rfl
  recover argument kind error := by
    unfold recover
    split <;> rfl
  append := by
    rintro first _ more _ rfl rfl
    exact (Outcome.withPath_append _ first more).symm

/-- Renderings that look at the same differ in nothing but the paths of their records. -/
theorem IsBuiltin.renderList_withPath (builtin : setting.IsBuiltin)
    (looks : ∀ directive, setting.Visits directive.toNode nodes →
      setting.LooksSame context arguments directive) (ends : setting.Ends nodes)
    (ends' : { setting with context := context, arguments := arguments }.Ends nodes) :
    renderList { setting with context := context, arguments := arguments } nodes ends' =
      (renderList setting nodes ends).withPath (context.path.getD "") :=
  (builtin.keeps_withPath context arguments looks).renderList ends ends'

theorem IsBuiltin.renderList_congr (builtin : setting.IsBuiltin)
    (looks : ∀ directive, setting.Visits directive.toNode nodes →
      setting.LooksSame context arguments directive) (path : setting.context.path = context.path)
    (ends : setting.Ends nodes)
    (ends' : { setting with context := context, arguments := arguments }.Ends nodes) :
    renderList { setting with context := context, arguments := arguments } nodes ends' =
      renderList setting nodes ends := by
  have own := builtin.renderList_withPath setting.context setting.arguments
    (fun directive _ => .refl setting directive) ends ends
  rw [builtin.renderList_withPath context arguments looks ends ends', ← path]
  exact own.symm

end Renderings

end Setting

end Parlance.Render

namespace Parlance.Engine

open Parlance.Format Parlance.Render

/-- An engine with built-in formatters, with other rules of plural forms. -/
theorem IsBuiltin.categories {engine : Engine} (builtin : engine.IsBuiltin)
    (categories : Plural.Categories) : { engine with categories := categories }.IsBuiltin :=
  ⟨builtin.formatters, builtin.tags⟩

/-- With built-in formatters, a rendering depends on the arguments that the message names and on
the categories of numbers. The path of the message shows in the records only. Without directives
that go to a formatter of plural forms, the locale and the rules make no difference. -/
theorem render_depends_on_named {engine : Engine} (builtin : engine.IsBuiltin)
    (categories : Plural.Categories) (locale locale' : String) (path path' : Option String)
    (arguments arguments' : Arguments) (nodes : List Node) :
    let other := { engine with categories := categories }
    let ends := builtin.ends
    let ends' := (builtin.categories categories).ends
    let outcome := engine.render locale path arguments nodes (ends ..)
    let moved := engine.render locale path' arguments nodes (ends ..)
    ((∀ directive : Directive, directive.toNode ∈ Node.constructs nodes →
        Keyed.find? arguments directive.argument = Keyed.find? arguments' directive.argument) →
      (∀ kind number, engine.categories locale kind number = categories locale' kind number) →
      other.render locale' path arguments' nodes (ends' ..) = outcome) ∧
    (moved.result = outcome.result ∧
      moved.records = outcome.records.map (Record.withPath (path'.getD ""))) ∧
    ((∀ directive : Directive,
        (engine.setting locale path arguments).Visits directive.toNode nodes →
          ∀ kind, engine.registry.find? directive.kind ≠ some (.plural kind)) →
      other.render locale' path arguments nodes (ends' ..) = outcome) := by
  intro other ends ends' outcome moved
  have known := builtin.setting locale path arguments
  refine ⟨fun named same => ?_, ?_, fun unchosen => ?_⟩
  · refine known.renderList_congr (other.context locale' path) arguments'
      (fun directive visits => ⟨?_, ?_⟩) rfl _ _
    · exact named directive (known.mem_constructs_of_visits visits)
    · exact fun kind _ => same kind
  · have same : moved = outcome.withPath (path'.getD "") :=
      known.renderList_withPath (engine.context locale path') arguments
        (fun _ _ => ⟨rfl, fun _ _ _ => rfl⟩) (ends ..) (ends ..)
    rw [same]
    exact ⟨rfl, rfl⟩
  · refine known.renderList_congr (other.context locale' path) arguments
      (fun directive visits => ⟨rfl, ?_⟩) rfl _ _
    exact fun kind plural => absurd plural (unchosen directive visits kind)

theorem cart_depends_on_named :
    let engine : Engine :=
      { registry := [("count", .count), ("many", .plural .cardinal), ("pick", .select)] }
    let other := { engine with categories := fun _ => Plural.knownCategories "en" }
    let counted := [.tag "b" [] [.message "n" "many" [("other", [.format "n" "count" none])]]]
    let picked := [.message "n" "pick" [("2", [.format "m" "value" none])]]
    let arguments := [("n", .integer 2), ("m", .text "x")]
    let arguments' := [("k", .text "y"), ("n", .integer 2)]
    (∃ ends ends', other.render "de" (some "cart") arguments' counted ends' =
      engine.render "en" (some "cart") arguments counted ends) ∧
    (∃ ends ends', (engine.render "en" none arguments picked ends').records =
      (engine.render "en" (some "cart") arguments picked ends).records.map
        (Record.withPath "")) ∧
    (∃ ends ends', other.render "de" none arguments picked ends' =
      engine.render "en" none arguments picked ends) := by
  intro engine other counted picked arguments arguments'
  have builtin : engine.IsBuiltin := by
    refine ⟨fun entry member => ?_, Or.inl rfl⟩
    simp only [engine, List.mem_cons, List.not_mem_nil, or_false] at member
    rcases member with rfl | rfl | rfl
    · exact .count
    · exact .plural .cardinal
    · exact .select
  have dependence := render_depends_on_named builtin other.categories
  refine ⟨⟨_, _, (dependence "en" "de" (some "cart") none arguments arguments' counted).1 ?_ ?_⟩,
    ⟨_, _, (dependence "en" "de" (some "cart") none arguments arguments picked).2.1.2⟩,
    ⟨_, _, (dependence "en" "de" none none arguments arguments picked).2.2 ?_⟩⟩
  · rintro ⟨argument, kind, shape⟩ member
    have named : argument = "n" := by
      cases shape <;>
        simp [counted, Node.constructs, Node.constructsOf, Node.constructsOfBranches,
          Directive.toNode] at member <;> exact member.1
    subst named
    rfl
  · exact fun kind number => rfl
  · intro directive visits kind
    have member := (builtin.setting "en" none arguments).mem_constructs_of_visits visits
    have kinds : directive.kind = "pick" ∨ directive.kind = "value" := by
      obtain ⟨argument, kind, shape⟩ := directive
      cases shape <;>
        simp [picked, Node.constructs, Node.constructsOf, Node.constructsOfBranches,
          Directive.toNode] at member <;> simp [member]
    have uncounted : engine.registry.isCounting directive.kind = false := by
      rcases kinds with pick | value
      · rw [pick]
        decide +kernel
      · rw [value]
        decide +kernel
    intro found
    rw [Registry.isCounting, found] at uncounted
    cases uncounted

end Parlance.Engine
