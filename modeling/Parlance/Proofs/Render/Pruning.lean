import Parlance.Proofs.Render.Builtin

namespace Parlance.Render

open Parlance.Format Parlance.Markup

/-! # Failures are local

A lenient rendering by built-in formatters writes what is left of the message when the directives
that fail are taken out, and it records each of them that it meets. Taking them out of branches
changes no choice, because built-in formatters choose by the keys.
-/

namespace Setting

def fails (setting : Setting) (directive : Directive) : Bool :=
  match setting.format directive with
  | .error _ => true
  | .ok _ => false

mutual

/-- A node without the directives in it that fail, unless it fails itself. -/
def pruneNode? (setting : Setting) : Node → Option Node
  | .text value => some (.text value)
  | .format argument kind style =>
    if setting.fails ⟨argument, kind, .styled style⟩ then none
    else some (.format argument kind style)
  | .message argument kind branches =>
    if setting.fails ⟨argument, kind, .branched branches⟩ then none
    else some (.message argument kind (pruneBranches setting branches))
  | .tag name attributes children => some (.tag name attributes (prune setting children))

/-- A message without the directives that fail, at every depth. -/
def prune (setting : Setting) : List Node → List Node
  | [] => []
  | node :: rest => (pruneNode? setting node).toList ++ prune setting rest

def pruneBranches (setting : Setting) : List (String × List Node) → List (String × List Node)
  | [] => []
  | (key, nodes) :: rest => (key, prune setting nodes) :: pruneBranches setting rest

end

/-- What is recorded of a directive that fails. -/
def omission (setting : Setting) (failure : Directive × Error) : Record :=
  .omitted (setting.context.path.getD "") failure.1.argument failure.1.kind failure.2

/-- The directives that fail on the way that a rendering takes through a message, with their
errors, from left to right. Branches that are not chosen are not on the way. -/
inductive Meets (setting : Setting) : List Node → List (Directive × Error) → Prop
  | nil : Meets setting [] []
  | text {value : String} (more : Meets setting rest later) :
      Meets setting (.text value :: rest) later
  | failing {directive : Directive} {error : Error}
      (failed : setting.format directive = .error error) (more : Meets setting rest later) :
      Meets setting (directive.toNode :: rest) ((directive, error) :: later)
  | written {directive : Directive} {text : String}
      (formatted : setting.format directive = .ok (.text text)) (more : Meets setting rest later) :
      Meets setting (directive.toNode :: rest) later
  | chosen {directive : Directive} {nodes : List Node}
      (formatted : setting.format directive = .ok (.nodes nodes))
      (first : Meets setting nodes earlier) (more : Meets setting rest later) :
      Meets setting (directive.toNode :: rest) (earlier ++ later)
  | tag {name : String} {attributes : List (String × Option String)} {children : List Node}
      (first : Meets setting children earlier) (more : Meets setting rest later) :
      Meets setting (.tag name attributes children :: rest) (earlier ++ later)

variable {setting : Setting}

theorem pruneBranches_eq (branches : List (String × List Node)) :
    pruneBranches setting branches = Keyed.mapValues (prune setting) branches := by
  induction branches with
  | nil => rfl
  | cons entry rest ih =>
      obtain ⟨key, nodes⟩ := entry
      rw [pruneBranches, ih]
      rfl

theorem prune_text (value : String) (rest : List Node) :
    prune setting (.text value :: rest) = .text value :: prune setting rest :=
  rfl

theorem prune_tag (name : String) (attributes : List (String × Option String))
    (children rest : List Node) :
    prune setting (.tag name attributes children :: rest) =
      .tag name attributes (prune setting children) :: prune setting rest :=
  rfl

theorem prune_of_fails {directive : Directive} (fails : setting.fails directive = true)
    (rest : List Node) : prune setting (directive.toNode :: rest) = prune setting rest := by
  obtain ⟨argument, kind, shape⟩ := directive
  cases shape <;> simp [Directive.toNode, prune, pruneNode?, fails]

theorem prune_of_not_fails {directive : Directive} (kept : setting.fails directive = false)
    (rest : List Node) :
    prune setting (directive.toNode :: rest) =
      (directive.mapBranches (prune setting)).toNode :: prune setting rest := by
  obtain ⟨argument, kind, shape⟩ := directive
  cases shape with
  | styled style => simp [Directive.toNode, Directive.mapBranches, prune, pruneNode?, kept]
  | branched branches =>
      simp [Directive.toNode, Directive.mapBranches, prune, pruneNode?, kept, pruneBranches_eq]

/-- A strict rendering of what is left writes what a lenient rendering writes, and the lenient one
records what it meets. -/
def FailsLocally (setting : Setting) (nodes : List Node) : Prop :=
  ∃ text failures, Meets setting nodes failures ∧
    (∀ ends, renderList { setting with strict := true } (prune setting nodes) ends = .ok text) ∧
    (∀ ends, renderList { setting with strict := false } nodes ends =
      ⟨.ok text, failures.map setting.omission⟩)

theorem failsLocally_of_error {directive : Directive} {error : Error} {rest : List Node}
    (failed : setting.format directive = .error error) (more : FailsLocally setting rest) :
    FailsLocally setting (directive.toNode :: rest) := by
  obtain ⟨text, failures, meets, strictly, leniently⟩ := more
  have fails : setting.fails directive = true := by simp [Setting.fails, failed]
  have lenient : { setting with strict := false }.format directive = .error error := failed
  refine ⟨text, (directive, error) :: failures, .failing failed meets, ?_, ?_⟩
  · rw [prune_of_fails fails]
    exact strictly
  · intro ends
    rw [renderList_of_error lenient, leniently, Setting.recover]
    simp [Outcome.recorded, Outcome.append_ok, omission]

theorem failsLocally_of_text {directive : Directive} {value : String} {rest : List Node}
    (builtin : setting.IsBuiltin) (formatted : setting.format directive = .ok (.text value))
    (more : FailsLocally setting rest) : FailsLocally setting (directive.toNode :: rest) := by
  obtain ⟨text, failures, meets, strictly, leniently⟩ := more
  have kept : setting.fails directive = false := by simp [Setting.fails, formatted]
  have pruned := builtin.format_mapBranches (prune setting) directive
  rw [formatted] at pruned
  have strict : { setting with strict := true }.format
      (directive.mapBranches (prune setting)) = .ok (.text value) := pruned
  have lenient : { setting with strict := false }.format directive = .ok (.text value) :=
    formatted
  refine ⟨value ++ text, failures, .written formatted meets, ?_, ?_⟩
  · rw [prune_of_not_fails kept]
    intro ends
    rw [renderList_of_text strict, strictly]
    rfl
  · intro ends
    rw [renderList_of_text lenient, leniently]
    exact Outcome.append_ok value text [] _

theorem failsLocally_of_nodes {directive : Directive} {nodes rest : List Node}
    (builtin : setting.IsBuiltin) (formatted : setting.format directive = .ok (.nodes nodes))
    (first : FailsLocally setting nodes) (more : FailsLocally setting rest) :
    FailsLocally setting (directive.toNode :: rest) := by
  obtain ⟨start, failuresFirst, meetsFirst, strictlyFirst, lenientlyFirst⟩ := first
  obtain ⟨text, failures, meets, strictly, leniently⟩ := more
  have kept : setting.fails directive = false := by simp [Setting.fails, formatted]
  have pruned := builtin.format_mapBranches (prune setting) directive
  rw [formatted] at pruned
  have strict : { setting with strict := true }.format
      (directive.mapBranches (prune setting)) = .ok (.nodes (prune setting nodes)) := pruned
  have lenient : { setting with strict := false }.format directive = .ok (.nodes nodes) :=
    formatted
  refine ⟨start ++ text, failuresFirst ++ failures, .chosen formatted meetsFirst meets, ?_, ?_⟩
  · rw [prune_of_not_fails kept]
    intro ends
    rw [renderList_of_nodes strict, strictlyFirst, strictly]
    rfl
  · intro ends
    rw [renderList_of_nodes lenient, lenientlyFirst, leniently, Outcome.append_ok,
      List.map_append]

theorem failsLocally_tag {name : String} {attributes : List (String × Option String)}
    {children rest : List Node} (builtin : setting.IsBuiltin)
    (first : FailsLocally setting children) (more : FailsLocally setting rest) :
    FailsLocally setting (.tag name attributes children :: rest) := by
  obtain ⟨inside, failuresFirst, meetsFirst, strictlyFirst, lenientlyFirst⟩ := first
  obtain ⟨text, failures, meets, strictly, leniently⟩ := more
  obtain ⟨opening, closing, wrap⟩ := builtin.exists_wrap name attributes
  have strict : { setting with strict := true }.wrap ⟨name, attributes, prune setting children⟩ =
      .ok ⟨opening, prune setting children, closing⟩ := wrap (prune setting children)
  have lenient : { setting with strict := false }.wrap ⟨name, attributes, children⟩ =
      .ok ⟨opening, children, closing⟩ := wrap children
  refine ⟨((opening ++ inside) ++ closing) ++ text, failuresFirst ++ failures,
    .tag meetsFirst meets, ?_, ?_⟩
  · rw [prune_tag]
    intro ends
    rw [renderList_of_wrapping strict, strictlyFirst, strictly]
    rfl
  · intro ends
    rw [renderList_of_wrapping lenient, lenientlyFirst, leniently, List.map_append]
    simp only [Outcome.ok, Outcome.append_ok, List.nil_append, List.append_nil]

theorem failsLocally_directive (builtin : setting.IsBuiltin) (directive : Directive)
    {rest : List Node}
    (each : ∀ nodes, setting.format directive = .ok (.nodes nodes) → FailsLocally setting nodes)
    (more : FailsLocally setting rest) : FailsLocally setting (directive.toNode :: rest) := by
  cases formatted : setting.format directive with
  | error error => exact failsLocally_of_error formatted more
  | ok found =>
      cases found with
      | text value => exact failsLocally_of_text builtin formatted more
      | nodes nodes => exact failsLocally_of_nodes builtin formatted (each nodes formatted) more

theorem IsBuiltin.failsLocally (builtin : setting.IsBuiltin) (nodes : List Node) :
    FailsLocally setting nodes := by
  induction nodes using Node.list_induction with
  | nil =>
      refine ⟨"", [], .nil, ?_, ?_⟩
      · exact fun ends => renderList_nil ends
      · exact fun ends => renderList_nil ends
  | text value rest ih =>
      obtain ⟨text, failures, meets, strictly, leniently⟩ := ih
      refine ⟨value ++ text, failures, .text meets, ?_, ?_⟩
      · rw [prune_text]
        intro ends
        rw [renderList_text, strictly]
        rfl
      · intro ends
        rw [renderList_text, leniently]
        exact Outcome.append_ok value text [] _
  | format argument kind style rest ih =>
      refine failsLocally_directive builtin ⟨argument, kind, .styled style⟩ ?_ ih
      exact fun nodes formatted => absurd formatted builtin.styled_ne_nodes
  | message argument kind branches rest each ih =>
      refine failsLocally_directive builtin ⟨argument, kind, .branched branches⟩ ?_ ih
      intro nodes formatted
      obtain ⟨key, member⟩ := builtin.mem_of_nodes formatted
      exact each key nodes member
  | tag name attributes children rest inside ih => exact failsLocally_tag builtin inside ih

end Setting

end Parlance.Render

namespace Parlance.Engine

open Parlance.Format Parlance.Markup Parlance.Render

/-- With built-in formatters, the lenient text of a message is the strict text of what is left
without the directives that fail, and each failing directive on the way is recorded once. -/
theorem lenient_failure_is_local {engine : Engine} (builtin : engine.IsBuiltin) (locale : String)
    (path : Option String) (arguments : Arguments) (nodes : List Node) :
    let setting := engine.setting locale path arguments
    ∃ text failures, setting.Meets nodes failures ∧
      { engine with strict := true }.render locale path arguments (setting.prune nodes)
        ((builtin.strictness true).ends locale path arguments (setting.prune nodes)) = .ok text ∧
      { engine with strict := false }.render locale path arguments nodes
        ((builtin.strictness false).ends locale path arguments nodes) =
          ⟨.ok text, failures.map setting.omission⟩ := by
  obtain ⟨text, failures, meets, strictly, leniently⟩ :=
    (builtin.setting locale path arguments).failsLocally nodes
  exact ⟨text, failures, meets, strictly _, leniently _⟩

theorem missing_argument_is_local :
    let engine : Engine := { strict := false, tagStyle := .html }
    let setting := engine.setting "en" (some "cart") [("n", .text "x")]
    let nodes := [.text "a", .message "n" "select"
      [("x", [.format "m" "value" none, .tag "b" [] [.text "c"]])]]
    setting.prune nodes =
        [.text "a", .message "n" "select" [("x", [.tag "b" [] [.text "c"]])]] ∧
      ∃ text failures, setting.Meets nodes failures ∧
        { engine with strict := true }.render "en" (some "cart") [("n", .text "x")]
          (setting.prune nodes) ((default_isBuiltin true .html _).ends ..) = .ok text ∧
        { engine with strict := false }.render "en" (some "cart") [("n", .text "x")] nodes
          ((default_isBuiltin false .html _).ends ..) =
            ⟨.ok text, failures.map setting.omission⟩ :=
  ⟨by decide +kernel, lenient_failure_is_local (default_isBuiltin false .html _) ..⟩

end Parlance.Engine
