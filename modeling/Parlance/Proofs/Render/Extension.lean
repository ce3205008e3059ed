import Parlance.Proofs.Pattern.Kinds
import Parlance.Proofs.Render.Relations

namespace Parlance

open Parlance.Format Parlance.Markup Parlance.Render

/-! # Registering a formatter

The reader and the renderer look up kinds that stand in the pattern, and the kinds of a name alone
and of a number sign. So a formatter that is registered under any other kind is never looked up for
the pattern, whatever it does, and the pattern is read and rendered as before. A tag formatter that
brings in a directive of that kind is the only way to tell the difference.
-/

theorem Pattern.IsWritten.kind_cases {kinds : DirectiveKinds} {pattern : List Char}
    {directive : Directive} (written : IsWritten kinds pattern directive.toNode) :
    directive.kind = valueKind ∨ directive.kind = countKind ∨
      directive.kind.toList <:+: pattern := by
  obtain ⟨token, ⟨input, rest, inside, lexeme⟩, writes⟩ := written
  obtain ⟨argument, kind, shape⟩ := directive
  cases shape with
  | styled style =>
      cases writes with
      | format =>
          rcases lexeme.argument_infix with value | stands
          · exact Or.inl value
          · exact Or.inr (Or.inr (stands.trans inside.isInfix))
      | count => exact Or.inr (Or.inl rfl)
  | branched branches =>
      cases writes with
      | message => exact Or.inr (Or.inr (lexeme.branching_infix.trans inside.isInfix))

namespace Format.Registry

variable {registry : Registry} {kind other : String}

theorem find?_register_of_ne (different : kind ≠ other) (formatter : Formatter) :
    (registry.register kind formatter).find? other = registry.find? other := by
  rw [find?, register, Keyed.find?_insert, if_neg different]
  rfl

/-- A text in which a kind does not stand is read without regard to its formatter. -/
theorem agreeIn_register {text : List Char} (absent : ¬ kind.toList <:+: text)
    (formatter : Formatter) :
    Pattern.AgreeIn (registry.register kind formatter).directiveKinds registry.directiveKinds
      text := by
  have different (other : String) (stands : other.toList <:+: text) : kind ≠ other := by
    rintro rfl
    exact absent stands
  refine ⟨fun other stands => ?_, fun other stands => ?_⟩
  · exact congrArg (Option.any Formatter.isBranching)
      (find?_register_of_ne (different other stands) formatter)
  · exact congrArg (Option.any Formatter.isCounting)
      (find?_register_of_ne (different other stands) formatter)

end Format.Registry

namespace Engine

variable {engine : Engine} {kind pattern : String} {formatter : Formatter}

theorem sourceOf?_suffix {source : String} (found : sourceOf? pattern = some source) :
    source.toList <:+ pattern.toList := by
  unfold sourceOf? at found
  split at found
  · rename_i rest marked
    cases found
    unfold Pattern.unmarked? at marked
    split at marked
    · cases marked
      rw [String.toList_ofList]
      exact List.drop_suffix _ _
    · contradiction
  · split at found
    · cases found
      exact List.suffix_refl _
    · contradiction

theorem readNodes_register (absent : ¬ kind.toList <:+: pattern.toList) :
    { engine with registry := engine.registry.register kind formatter }.readNodes pattern =
      engine.readNodes pattern := by
  simp only [readNodes, (Registry.agreeIn_register absent formatter).parse]

theorem parse_register (absent : ¬ kind.toList <:+: pattern.toList) :
    { engine with registry := engine.registry.register kind formatter }.parse pattern =
      engine.parse pattern := by
  unfold Engine.parse
  cases found : sourceOf? pattern with
  | none => rfl
  | some source =>
      have inside := (sourceOf?_suffix found).isInfix
      simp only [readNodes_register fun stands => absent (stands.trans inside)]

/-- A directive of a compiled pattern has a kind that stands in the pattern, unless the kind is that
of a name alone or of a number sign. -/
theorem kind_cases_of_parse {message : Message} {directive : Directive}
    (compiled : (engine.parse pattern).result = .ok message)
    (member : directive.toNode ∈ Node.constructs message.nodes) :
    directive.kind = valueKind ∨ directive.kind = countKind ∨
      directive.kind.toList <:+: pattern.toList := by
  unfold Engine.parse at compiled
  split at compiled
  · cases compiled
    contradiction
  · rename_i source found
    split at compiled
    · rename_i nodes read
      cases compiled
      have written := Pattern.isWritten_of_parse (parse_of_readNodes read) member
      exact written.kind_cases.imp_right (Or.imp_right
        (·.trans (sourceOf?_suffix found).isInfix))
    · split at compiled
      · contradiction
      · cases compiled
        contradiction

section Renderings

variable {locale : String} {path : Option String} {arguments : Arguments} {nodes : List Node}

theorem keeps_register
    (unused : ∀ directive : Directive,
      (engine.setting locale path arguments).Visits directive.toNode nodes →
        directive.kind ≠ kind) :
    Keeps Eq (engine.setting locale path arguments)
      ({ engine with registry := engine.registry.register kind formatter }.setting locale path
        arguments) nodes where
  formats directive visits := by
    have same : (engine.registry.register kind formatter).find? directive.kind = _ :=
      Registry.find?_register_of_ne (unused directive visits).symm formatter
    simp only [Setting.format, setting, same]
    rfl
  wraps _ := rfl
  text _ := rfl
  recover _ _ _ := rfl
  append := by
    rintro _ _ _ _ rfl rfl
    rfl

/-- If no directive of the kind comes up in the rendering, a pattern in which the kind does not stand
is rendered as before. -/
theorem format_register (absent : ¬ kind.toList <:+: pattern.toList)
    (unused : ∀ message, (engine.parse pattern).result = .ok message →
      ∀ directive : Directive,
        (engine.setting locale path arguments).Visits directive.toNode message.nodes →
          directive.kind ≠ kind) :
    let extended := { engine with registry := engine.registry.register kind formatter }
    (extended.Ends locale path arguments pattern ↔ engine.Ends locale path arguments pattern) ∧
      ∀ ends ends', extended.format locale path arguments pattern ends' =
        engine.format locale path arguments pattern ends := by
  intro extended
  have parsed : extended.parse pattern = engine.parse pattern := parse_register absent
  constructor
  · simp only [Engine.Ends, parsed]
    refine forall₂_congr fun message compiled => ?_
    exact (keeps_register (unused message compiled)).ends_iff.symm
  · intro ends ends'
    cases result : (engine.parse pattern).result with
    | error error =>
        have failed : (extended.parse pattern).result = .error error := by rw [parsed, result]
        rw [format_of_error result, format_of_error failed, parsed]
    | ok message =>
        have compiled : (extended.parse pattern).result = .ok message := by rw [parsed, result]
        rw [format_of_ok result, format_of_ok compiled, parsed]
        cases message with
        | plain text => rfl
        | compiled nodes =>
            have same : extended.render locale path arguments nodes (ends' _ compiled) =
                engine.render locale path arguments nodes (ends _ result) :=
              ((keeps_register (unused _ result)).renderList (ends _ result)
                (ends' _ compiled)).symm
            simp only [renderMessage, same]

end Renderings

/-- A formatter that is registered under a kind that does not stand in a pattern changes neither how
the pattern is read nor how it is rendered, if the tag formatter brings in no directive of that
kind. -/
theorem register_is_conservative
    (formatters : ∀ entry ∈ engine.registry, entry.2.IsBuiltin)
    (tags : ∀ directive : Directive, directive.kind = kind →
      ¬ engine.tags.Injects directive.toNode)
    (notValue : kind ≠ valueKind) (notCount : kind ≠ countKind) (formatter : Formatter)
    (absent : ¬ kind.toList <:+: pattern.toList) :
    let extended := { engine with registry := engine.registry.register kind formatter }
    extended.readNodes pattern = engine.readNodes pattern ∧
      extended.parse pattern = engine.parse pattern ∧
      ∀ (locale : String) (path : Option String) (arguments : Arguments),
        (extended.Ends locale path arguments pattern ↔
          engine.Ends locale path arguments pattern) ∧
        ∀ ends ends', extended.format locale path arguments pattern ends' =
          engine.format locale path arguments pattern ends := by
  intro extended
  refine ⟨readNodes_register absent, parse_register absent, fun locale path arguments => ?_⟩
  refine format_register absent fun message compiled directive visits same => ?_
  have member := Setting.mem_constructs_of_visits formatters visits
    directive.toNode_mem_constructsOf (tags directive same)
  rcases kind_cases_of_parse compiled member with value | count | stands
  · exact notValue (same.symm.trans value)
  · exact notCount (same.symm.trans count)
  · exact absent (same ▸ stands)

/-- A counting formatter of branches under a kind that the pattern does not name. -/
theorem money_changes_nothing :
    let engine : Engine := {}
    let money : Formatter := ⟨true, true, fun _ directive _ => .ok (.text directive.argument)⟩
    let extended := { engine with registry := engine.registry.register "money" money }
    let pattern := "\x7bn, plural, one \x7b#\x7d other \x7b\x7bm\x7d and #\x7d\x7d"
    let arguments := [("m", .text "x"), ("n", .integer 2)]
    ¬ "money".toList <:+: pattern.toList ∧
      (∀ directive : Directive, directive.kind = "money" →
        ¬ engine.tags.Injects directive.toNode) ∧
      extended.readNodes pattern = engine.readNodes pattern ∧
      ∃ ends ends', extended.format "en" none arguments pattern ends' =
        engine.format "en" none arguments pattern ends := by
  intro engine money extended pattern arguments
  have builtin : engine.IsBuiltin := default_isBuiltin false .html _
  have own (directive : Directive) : ¬ engine.tags.Injects directive.toNode :=
    (builtin.setting "en" none arguments).not_injects
  have absent : ¬ "money".toList <:+: pattern.toList := by
    decide +kernel
  obtain ⟨read, _, rendered⟩ := register_is_conservative builtin.formatters
    (fun directive _ => own directive) (by decide : "money" ≠ valueKind)
    (by decide : "money" ≠ countKind) money absent
  obtain ⟨ends_iff, same⟩ := rendered "en" none arguments
  have ends := builtin.format_ends "en" none arguments pattern
  exact ⟨absent, fun directive _ => own directive, read, ends, ends_iff.mpr ends, same ..⟩

/-- A tag formatter that puts a directive of the further kind into every tag: without the
registration the directive has no formatter, and with it the directive is written. -/
theorem injected_money_shows :
    let tags : TagFormatter := ⟨fun _ _ _ => .ok ⟨"", [.format "n" "money" none], ""⟩⟩
    let engine : Engine := { strict := true, customTags := some tags }
    let money : Formatter := .ofText fun _ directive _ => .ok directive.argument
    let extended := { engine with registry := engine.registry.register "money" money }
    (∀ entry ∈ engine.registry, entry.2.IsBuiltin) ∧
      "money" ≠ valueKind ∧ "money" ≠ countKind ∧ ¬ "money".toList <:+: "<b>x</b>".toList ∧
      ∃ ends ends',
        (engine.format "en" none [] "<b>x</b>" ends).result =
          .error (.unknownKind "money" "n") ∧
        (extended.format "en" none [] "<b>x</b>" ends').result = .ok "n" := by
  intro tags engine money extended
  have builtin : { engine with customTags := none }.IsBuiltin := default_isBuiltin true .html _
  have absent : ¬ "money".toList <:+: "<b>x</b>".toList := by
    decide +kernel
  have parsed : (engine.parse "<b>x</b>").result = .ok (.compiled [.tag "b" [] [.text "x"]]) := by
    decide +kernel
  have parsed' : (extended.parse "<b>x</b>").result = .ok (.compiled [.tag "b" [] [.text "x"]]) := by
    rw [parse_register absent, parsed]
  let directive : Directive := ⟨"n", "money", .styled none⟩
  have unknown : (engine.setting "en" none []).format directive =
      .error (.unknownKind "money" "n") :=
    rfl
  have written : (extended.setting "en" none []).format directive = .ok (.text "n") :=
    rfl
  have ends : engine.Ends "en" none [] "<b>x</b>" := by
    intro message compiled
    cases parsed.symm.trans compiled
    exact Setting.ends_of_wrapping rfl
      (Setting.ends_of_formatted unknown (by simp) Setting.ends_nil) Setting.ends_nil
  have ends' : extended.Ends "en" none [] "<b>x</b>" := by
    intro message compiled
    cases parsed'.symm.trans compiled
    exact Setting.ends_of_wrapping rfl
      (Setting.ends_of_formatted written (by simp) Setting.ends_nil) Setting.ends_nil
  have wrapped : (extended.setting "en" none []).wrap ⟨"b", [], [.text "x"]⟩ =
      .ok ⟨"", [directive.toNode], ""⟩ :=
    rfl
  have rendered (ends) :
      renderList (extended.setting "en" none []) [.tag "b" [] [.text "x"]] ends = .ok "n" := by
    rw [renderList_of_wrapping wrapped, renderList_of_text written, renderList_nil]
    simp only [Outcome.append_ok_empty, Outcome.ok_empty_append]
  refine ⟨builtin.formatters, by decide, by decide, absent, ends, ends', ?_, ?_⟩
  · rw [format_of_ok parsed]
    exact result_of_wrapping rfl rfl rfl unknown _
  · rw [format_of_ok parsed']
    exact congrArg Outcome.result (rendered _)

end Engine

end Parlance
