import Parlance.Proofs.Pattern.Origins
import Parlance.Proofs.Render.Failures

namespace Parlance

open Parlance.Format Parlance.Markup

/-! # Shapes of directives

The reader of patterns and the registry agree in which directives have branches: those of the kinds
whose formatters need them. So a built-in formatter never misses the branches of a directive that
was read, a directive with branches always has a formatter, and a style is refused only where
styles are known. A tag formatter has to keep to what is in the tags for this: it may bring in
directives that no pattern spells, and it may refuse a style by itself.
-/

namespace Node

/-- A directive has branches if its kind asks for branches, and only then. -/
def Fits (kinds : Pattern.DirectiveKinds) : Node → Prop
  | format _ kind _ => kinds.isBranching kind = false
  | message _ kind _ => kinds.isBranching kind = true
  | text _ | tag .. => True

end Node

namespace Pattern

variable {kinds : DirectiveKinds} {node : Node}

theorem IsWritten.fits {pattern : List Char} (written : IsWritten kinds pattern node)
    (value : kinds.isBranching valueKind = false) (count : kinds.isBranching countKind = false) :
    node.Fits kinds := by
  obtain ⟨token, ⟨input, rest, _, lexeme⟩, writes⟩ := written
  cases writes with
  | format =>
      cases lexeme with
      | value => exact value
      | format _ _ plain _ => exact plain
  -- no pattern spells the kind of a number sign, so the reader never asks about it
  | count => exact count
  | message =>
      cases lexeme with
      | branching _ _ branching => exact branching
  | tag => exact trivial

end Pattern

namespace Format.Directive

variable {registry : Registry} {directive : Directive}

theorem exists_branches_of_fits (fits : directive.toNode.Fits registry.directiveKinds)
    {formatter : Formatter}
    (found : registry.find? directive.kind = some formatter)
    (branching : formatter.isBranching = true) :
    ∃ branches, directive.branches = .ok branches := by
  obtain ⟨argument, kind, shape⟩ := directive
  cases shape with
  | branched branches => exact ⟨branches, rfl⟩
  | styled style =>
      have asked : registry.isBranching kind = true := by
        rw [Registry.isBranching, found]
        exact branching
      have plain : registry.isBranching kind = false := fits
      rw [plain] at asked
      contradiction

theorem exists_style_of_fits (fits : directive.toNode.Fits registry.directiveKinds)
    (absent : registry.find? directive.kind = none) :
    ∃ style, directive.shape = .styled style := by
  obtain ⟨argument, kind, shape⟩ := directive
  cases shape with
  | styled style => exact ⟨style, rfl⟩
  | branched branches =>
      have asked : registry.isBranching kind = true := fits
      rw [Registry.isBranching, absent] at asked
      contradiction

end Format.Directive

namespace Render.Setting

variable {setting : Setting} {directive : Directive} {error : Error}

/-- The ways in which a directive of the right shape fails. A formatter is missing only where the
directive has a style, and a style is refused only by formatters of numbers and of dates. -/
inductive FailsFitting (setting : Setting) (directive : Directive) : Error → Prop
  | unknown (styled : directive.shape = .styled style)
      (absent : setting.registry.find? directive.kind = none) :
      FailsFitting setting directive (.unknownKind directive.kind directive.argument)
  | argument {failure : Error} (concerns : failure.ConcernsArgument directive.argument) :
      FailsFitting setting directive failure
  | style (styles : setting.registry.find? directive.kind = some .number ∨
        setting.registry.find? directive.kind = some .date) :
      FailsFitting setting directive (.invalidStyle directive.kind style)

theorem failsFitting_of_fits (fits : directive.toNode.Fits setting.registry.directiveKinds)
    (formatters : ∀ entry ∈ setting.registry, entry.2.IsBuiltin)
    (failed : setting.format directive = .error error) : setting.FailsFitting directive error := by
  unfold Setting.format at failed
  split at failed
  · rename_i absent
    cases failed
    obtain ⟨style, styled⟩ := Directive.exists_style_of_fits fits absent
    exact .unknown styled absent
  · rename_i formatter found
    have builtin : formatter.IsBuiltin := formatters _ (Keyed.mem_of_find? found)
    cases builtin.fails failed with
    | argument concerns => exact .argument concerns
    | style styles =>
        refine .style ?_
        rw [found]
        exact styles.imp (congrArg some) (congrArg some)
    | branches branching unbranched =>
        obtain ⟨branches, here⟩ := Directive.exists_branches_of_fits fits found branching
        rw [here] at unbranched
        contradiction

theorem FailsFitting.styles {kind style : String}
    (fails : setting.FailsFitting directive (.invalidStyle kind style)) :
    setting.registry.find? directive.kind = some .number ∨
      setting.registry.find? directive.kind = some .date := by
  cases fails with
  | argument concerns => cases concerns
  | style styles => exact styles

end Render.Setting

namespace Markup.TagFormatter

/-- The formatter brings nothing into a message that concerns its directives: neither one that is
not in the tag nor the refusal of a style. -/
structure IsNeutral (tags : TagFormatter) : Prop where
  injects : ∀ directive : Directive, ¬ tags.Injects directive.toNode
  refuses : ∀ context element arguments kind style,
    tags.wrap context element arguments ≠ .error (.invalidStyle kind style)

theorem isNeutral_around (texts : Element → String × String) : (around texts).IsNeutral where
  injects directive := not_injects_around texts directive.toNode
  refuses _ _ _ _ _ refused := nomatch refused

end Markup.TagFormatter

namespace Engine

open Parlance.Render

variable {engine : Engine} {pattern : String} {nodes : List Node}

theorem fits_of_readNodes (value : engine.registry.isBranching valueKind = false)
    (count : engine.registry.isBranching countKind = false)
    (read : engine.readNodes pattern = .ok nodes) {node : Node}
    (member : node ∈ Node.constructs nodes) : node.Fits engine.registry.directiveKinds :=
  (Pattern.isWritten_of_parse (parse_of_readNodes read) member).fits value count

/-- If neither a name alone in braces nor a number sign asks for branches, the directives of
a pattern that is read have branches exactly where a formatter of branches is registered. With
built-in formatters, and with tags that are formatted neutrally, a rendering then comes to no
directive with branches that has no formatter, and to no formatter that misses branches, and each
refusal of a style that it tells of is that of a formatter of numbers or of dates. -/
theorem read_shapes_fit (value : engine.registry.isBranching valueKind = false)
    (count : engine.registry.isBranching countKind = false)
    (read : engine.readNodes pattern = .ok nodes) :
    (∀ argument kind style, .format argument kind style ∈ Node.constructs nodes →
      engine.registry.isBranching kind = false) ∧
    (∀ argument kind branches, .message argument kind branches ∈ Node.constructs nodes →
      ∃ formatter, engine.registry.find? kind = some formatter ∧
        formatter.isBranching = true) ∧
    ((∀ entry ∈ engine.registry, entry.2.IsBuiltin) → engine.tags.IsNeutral →
      ∀ (locale : String) (path : Option String) (arguments : Arguments),
        let setting := engine.setting locale path arguments
        (∀ directive : Directive, setting.Visits directive.toNode nodes →
          (∀ formatter, engine.registry.find? directive.kind = some formatter →
            formatter.isBranching = true → ∃ branches, directive.branches = .ok branches) ∧
          ∀ error, setting.format directive = .error error →
            setting.FailsFitting directive error) ∧
        ∀ ends kind style,
          (engine.render locale path arguments nodes ends).TellsOf (.invalidStyle kind style) →
            ∃ directive : Directive, directive.toNode ∈ Node.constructs nodes ∧
              setting.format directive = .error (.invalidStyle kind style) ∧
              (engine.registry.find? directive.kind = some .number ∨
                engine.registry.find? directive.kind = some .date)) := by
  have fits {node : Node} (member : node ∈ Node.constructs nodes) :=
    fits_of_readNodes value count read member
  refine ⟨fun argument kind style member => fits member, fun argument kind branches member => ?_,
    fun formatters neutral locale path arguments => ?_⟩
  · exact (Option.any_eq_true _ _).mp (fits member)
  intro setting
  have visited {directive : Directive} (visits : setting.Visits directive.toNode nodes) :
      directive.toNode ∈ Node.constructs nodes :=
    Setting.mem_constructs_of_visits formatters visits directive.toNode_mem_constructsOf
      (neutral.injects directive)
  refine ⟨fun directive visits => ⟨?_, ?_⟩, fun ends kind style tells => ?_⟩
  · exact fun formatter => Directive.exists_branches_of_fits (fits (visited visits))
  · exact fun error => Setting.failsFitting_of_fits (fits (visited visits)) formatters
  · obtain ⟨node, visits, fails⟩ := Setting.exists_visited_of_tellsOf ends tells
    cases fails with
    | tag refused => exact absurd refused (neutral.refuses _ _ _ _ _)
    | @directive directive _ failed =>
        have member := visited visits
        refine ⟨directive, member, failed, ?_⟩
        exact (Setting.failsFitting_of_fits (fits member) formatters failed).styles

/-- A style that is refused inside a branch and inside a tag. -/
theorem nested_shapes_fit :
    let engine : Engine := {}
    let pattern := "<b>\x7bn, plural, other \x7b#\x7bm, number, odd\x7d\x7d\x7d</b>"
    let nodes := [.tag "b" [] [.message "n" "plural"
      [("other", [.format "n" "count" none, .format "m" "number" (some "odd")])]]]
    let arguments := [("n", .integer 2), ("m", .integer 3)]
    let setting := engine.setting "en" none arguments
    engine.readNodes pattern = .ok nodes ∧
      engine.registry.isBranching "number" = false ∧
      (∃ formatter, engine.registry.find? "plural" = some formatter ∧
        formatter.isBranching = true) ∧
      engine.tags.IsNeutral ∧
      ∃ ends, ∀ kind style,
        (engine.render "en" none arguments nodes ends).TellsOf (.invalidStyle kind style) →
          ∃ directive : Directive, directive.toNode ∈ Node.constructs nodes ∧
            setting.format directive = .error (.invalidStyle kind style) ∧
            (engine.registry.find? directive.kind = some .number ∨
              engine.registry.find? directive.kind = some .date) := by
  intro engine pattern nodes arguments setting
  have builtin : engine.IsBuiltin := default_isBuiltin false .html _
  have neutral : engine.tags.IsNeutral := TagFormatter.isNeutral_around _
  have read : engine.readNodes pattern = .ok nodes := by
    decide +kernel
  obtain ⟨styled, branched, rendered⟩ := read_shapes_fit (by decide +kernel) (by decide +kernel) read
  refine ⟨read, styled "m" "number" (some "odd") (by decide +kernel), branched "n" "plural"
    [("other", [.format "n" "count" none, .format "m" "number" (some "odd")])]
    (by decide +kernel), neutral, builtin.ends .., ?_⟩
  exact (rendered builtin.formatters neutral "en" none arguments).2 _

/-- Tag formatters that refuse a style, that put a directive without branches into a tag, and that
put one with branches and without a formatter there. No directive stands in the pattern. -/
theorem tags_bring_in_misfits :
    let engine (found : Except Error Wrapping) : Engine :=
      { strict := true, customTags := some ⟨fun _ _ _ => found⟩ }
    let nodes := [Node.tag "b" [] [.text "x"]]
    let refusing := engine (.error (.invalidStyle "b" "x"))
    let unbranched := engine (.ok ⟨"", [.format "n" "plural" none], ""⟩)
    let unknown := engine (.ok ⟨"", [.message "n" "none" []], ""⟩)
    (∀ found, (engine found).registry.isBranching valueKind = false ∧
      (engine found).registry.isBranching countKind = false ∧
      (∀ entry ∈ (engine found).registry, entry.2.IsBuiltin) ∧
      (engine found).readNodes "<b>x</b>" = .ok nodes) ∧
    (∀ directive : Directive, directive.toNode ∉ Node.constructs nodes) ∧
    (∃ ends, (refusing.render "en" none [] nodes ends).result = .error (.invalidStyle "b" "x")) ∧
    (∃ ends, (unbranched.render "en" none [] nodes ends).result =
      .error (.invalidStyle "plural" "")) ∧
    ∃ ends, (unknown.render "en" none [] nodes ends).result = .error (.unknownKind "none" "n") := by
  intro engine nodes refusing unbranched unknown
  have builtin : ({} : Engine).IsBuiltin := default_isBuiltin false .html _
  have value : Registry.builtin.isBranching valueKind = false := by decide +kernel
  have count : Registry.builtin.isBranching countKind = false := by decide +kernel
  have read : ({} : Engine).readNodes "<b>x</b>" = .ok nodes := by decide +kernel
  refine ⟨fun found => ⟨value, count, builtin.formatters, read⟩, ?_, ?_, ?_, ?_⟩
  · rintro ⟨argument, kind, shape⟩ member
    cases shape <;> cases List.mem_singleton.mp member
  · have refused : (refusing.setting "en" none []).wrap ⟨"b", [], [.text "x"]⟩ =
        .error (.invalidStyle "b" "x") :=
      rfl
    refine ⟨Setting.ends_tag.mpr ⟨fun _ wrapped => (nomatch wrapped), Setting.ends_nil⟩, ?_⟩
    rw [render, renderList_of_refused refused]
    rfl
  · let directive : Directive := ⟨"n", "plural", .styled none⟩
    have failed : (unbranched.setting "en" none []).format directive =
        .error (.invalidStyle "plural" "") :=
      rfl
    exact ⟨Setting.ends_of_wrapping rfl
      (Setting.ends_of_formatted failed (by simp) Setting.ends_nil) Setting.ends_nil,
      result_of_wrapping rfl rfl rfl failed _⟩
  · let directive : Directive := ⟨"n", "none", .branched []⟩
    have failed : (unknown.setting "en" none []).format directive =
        .error (.unknownKind "none" "n") :=
      rfl
    exact ⟨Setting.ends_of_wrapping rfl
      (Setting.ends_of_formatted failed (by simp) Setting.ends_nil) Setting.ends_nil,
      result_of_wrapping rfl rfl rfl failed _⟩

end Engine

end Parlance
