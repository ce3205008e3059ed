import Mathlib.Control.Monad.Basic
import Parlance.Proofs.Render.Builtin
import Parlance.Proofs.Render.Relations

namespace Parlance.Render

open Parlance.Format Parlance.Markup

/-! # Strict and lenient renderings

A strict rendering and a lenient one go side by side up to the first failure. There the strict
one stops with the error, and the lenient one records the same error and goes on. From then on
it can only add records of further failures.
-/

def Record.IsOmission : Record → Prop
  | .omitted .. => True
  | _ => False

/-- The lenient outcome is clean and equals the strict one, or its first record is of the error
that the strict one has. -/
inductive Simulates : (strict lenient : Outcome String) → Prop
  | clean : Simulates ⟨.ok text, []⟩ ⟨.ok text, []⟩
  | failing (omissions : ∀ record ∈ records, Record.IsOmission record) :
      Simulates ⟨.error error, []⟩ ⟨.ok text, .omitted path argument kind error :: records⟩

variable {setting : Setting}

theorem Simulates.append {strict lenient strictMore lenientMore : Outcome String}
    (first : Simulates strict lenient) (second : Simulates strictMore lenientMore) :
    Simulates (strict.append strictMore) (lenient.append lenientMore) := by
  cases first with
  | clean =>
      cases second with
      | clean => exact .clean
      | failing omissions =>
          rw [Outcome.append_ok]
          exact .failing omissions
  | failing omissions =>
      rw [Outcome.append_error]
      cases second with
      | clean =>
          rw [Outcome.append_ok, List.append_nil]
          exact .failing omissions
      | failing more =>
          rw [Outcome.append_ok]
          refine .failing fun record member => ?_
          rcases List.mem_append.mp member with before | here
          · exact omissions record before
          · rcases List.mem_cons.mp here with rfl | later
            · exact trivial
            · exact more record later

/-- A strict setting and a lenient one that agree in all else. -/
theorem simulates_keeps (setting : Setting) (nodes : List Node) :
    Keeps Simulates { setting with strict := true } { setting with strict := false } nodes where
  formats _ _ := rfl
  wraps _ := rfl
  text _ := .clean
  recover _ _ _ := .failing (by simp)
  append := .append

/-- The records of errors, in order. -/
def Outcome.failures {α : Type} (outcome : Outcome α) : List Record :=
  outcome.records.filter fun record => record.level = .error

/-- The text of the error that a record tells of. -/
def Record.errorText? : Record → Option String
  | .omitted _ _ _ error => some error.display
  | .verbatim error _ => some error.display
  | .compiled _ => none
  | .registered .. => none

/-- What the outcome of a strict rendering and that of a lenient one have to do with each
other. -/
structure Agree (strict lenient : Outcome String) : Prop where
  lenient_ok : ∃ text, lenient.result = .ok text
  ok_iff : ∀ text, strict.result = .ok text ↔ lenient.failures = [] ∧ lenient.result = .ok text
  error_iff : (∃ error, strict.result = .error error) ↔ lenient.failures ≠ []
  first_failure : ∀ error, strict.result = .error error →
    ∃ record later, lenient.failures = record :: later ∧
      record.errorText? = some error.display

theorem Simulates.agree {strict lenient : Outcome String} (simulates : Simulates strict lenient) :
    Agree strict lenient := by
  cases simulates with
  | @clean text =>
      refine ⟨⟨text, rfl⟩, fun other => ?_, ?_, ?_⟩
      · simp [Outcome.failures]
      · simp [Outcome.failures]
      · intro error failed
        cases failed
  | @failing records error text path argument kind omissions =>
      have failures : Outcome.failures ⟨.ok text, .omitted path argument kind error :: records⟩ =
          .omitted path argument kind error ::
            records.filter (fun record => record.level = .error) := by
        simp [Outcome.failures, Record.level]
      refine ⟨⟨text, rfl⟩, fun other => ?_, ?_, ?_⟩
      · simp [failures]
      · simp [failures]
      · rintro _ ⟨⟩
        exact ⟨_, _, failures, rfl⟩

theorem Simulates.silent {strict lenient : Outcome String} (simulates : Simulates strict lenient) :
    strict.records = [] := by
  cases simulates <;> rfl

/-- Records in front that tell of no errors make no difference. -/
theorem Agree.behind {strict lenient : Outcome String} {before : List Record}
    (agree : Agree strict lenient) (quiet : ∀ record ∈ before, record.level ≠ .error) :
    Agree ⟨strict.result, before ++ strict.records⟩ ⟨lenient.result, before ++ lenient.records⟩ := by
  have none : before.filter (fun record => record.level = .error) = [] := by
    simpa [List.filter_eq_nil_iff] using quiet
  have same : Outcome.failures ⟨lenient.result, before ++ lenient.records⟩ = lenient.failures := by
    simp only [Outcome.failures, List.filter_append, none, List.nil_append]
  obtain ⟨lenient_ok, ok_iff, error_iff, first_failure⟩ := agree
  rw [← same] at ok_iff error_iff first_failure
  exact ⟨lenient_ok, ok_iff, error_iff, first_failure⟩

end Parlance.Render

namespace Parlance.Engine

open Parlance.Format Parlance.Render

variable {engine : Engine} {locale : String} {path : Option String} {arguments : Arguments}
  {pattern : String}

theorem parse_of_strictness (strict : Bool) :
    { engine with strict := strict }.parse pattern =
      match sourceOf? pattern with
      | none => .ok (.plain pattern)
      | some source =>
        match engine.readNodes source with
        | .ok nodes => compile nodes
        | .error error =>
          if strict then .error error else .recorded (.plain pattern) (.verbatim error pattern) :=
  rfl

/-- A pattern that a strict engine refuses is plain text for a lenient one. -/
theorem parse_of_refused {error : Error}
    (refused : ({ engine with strict := true }.parse pattern).result = .error error) :
    { engine with strict := true }.parse pattern = .error error ∧
      { engine with strict := false }.parse pattern =
        .recorded (.plain pattern) (.verbatim error pattern) := by
  rw [parse_of_strictness] at refused ⊢
  rw [parse_of_strictness]
  cases source : sourceOf? pattern with
  | none =>
      rw [source] at refused
      cases refused
  | some text =>
      cases read : engine.readNodes text with
      | ok nodes =>
          simp only [source, read] at refused
          cases refused
      | error other =>
          simp only [source, read, if_true] at refused ⊢
          cases refused
          exact ⟨rfl, rfl⟩

/-- A pattern that a strict engine compiles is compiled by a lenient one, with the same record. -/
theorem parse_of_compiled {message : Message}
    (compiled : ({ engine with strict := true }.parse pattern).result = .ok message) :
    { engine with strict := false }.parse pattern = { engine with strict := true }.parse pattern ∧
      ∀ record ∈ ({ engine with strict := true }.parse pattern).records,
        record.level = .trace := by
  rw [parse_of_strictness] at compiled ⊢
  rw [parse_of_strictness]
  cases source : sourceOf? pattern with
  | none => exact ⟨rfl, by simp [Outcome.ok]⟩
  | some text =>
      cases read : engine.readNodes text with
      | ok nodes =>
          simp only [read]
          exact ⟨trivial, by simp [compile, Outcome.recorded, Record.level]⟩
      | error other =>
          simp only [source, read, if_true] at compiled
          cases compiled

theorem simulates_render {nodes : List Node}
    (ends : ({ engine with strict := true }.setting locale path arguments).Ends nodes)
    (ends' : ({ engine with strict := false }.setting locale path arguments).Ends nodes) :
    Simulates ({ engine with strict := true }.render locale path arguments nodes ends)
      ({ engine with strict := false }.render locale path arguments nodes ends') :=
  (simulates_keeps (engine.setting locale path arguments) nodes).renderList ends ends'

theorem exists_text_of_lenient (lenient : engine.strict = false) {nodes : List Node}
    (ends : (engine.setting locale path arguments).Ends nodes) :
    ∃ text, (engine.render locale path arguments nodes ends).result = .ok text := by
  have simulates := @simulates_render engine locale path arguments nodes ends ends
  obtain ⟨strict, tagStyle, customTags, registry, categories⟩ := engine
  cases lenient
  exact simulates.agree.lenient_ok

theorem simulates_renderMessage {message : Message}
    (ends : ({ engine with strict := true }.setting locale path arguments).Ends message.nodes)
    (ends' : ({ engine with strict := false }.setting locale path arguments).Ends message.nodes) :
    Simulates ({ engine with strict := true }.renderMessage locale path arguments message ends)
      ({ engine with strict := false }.renderMessage locale path arguments message ends') := by
  cases message with
  | plain text => exact .clean
  | compiled nodes => exact simulates_render ends ends'

/-- A lenient engine uses a pattern that a strict engine refuses as it stands. -/
theorem format_of_refused {error : Error}
    (refused : ({ engine with strict := true }.parse pattern).result = .error error)
    (strictEnds : { engine with strict := true }.Ends locale path arguments pattern)
    (lenientEnds : { engine with strict := false }.Ends locale path arguments pattern) :
    { engine with strict := true }.format locale path arguments pattern strictEnds =
        .error error ∧
      { engine with strict := false }.format locale path arguments pattern lenientEnds =
        .recorded pattern (.verbatim error pattern) := by
  obtain ⟨strictly, leniently⟩ := parse_of_refused refused
  have plain : ({ engine with strict := false }.parse pattern).result = .ok (.plain pattern) := by
    rw [leniently]
    rfl
  rw [format_of_error refused, format_of_ok plain, strictly, leniently]
  exact ⟨rfl, rfl⟩

theorem format_of_compiled {message : Message}
    (compiled : ({ engine with strict := true }.parse pattern).result = .ok message)
    (strictEnds : { engine with strict := true }.Ends locale path arguments pattern)
    (lenientEnds : { engine with strict := false }.Ends locale path arguments pattern) :
    let strict := { engine with strict := true }.format locale path arguments pattern strictEnds
    let lenient :=
      { engine with strict := false }.format locale path arguments pattern lenientEnds
    strict.records = ({ engine with strict := true }.parse pattern).records ∧
      (∀ record ∈ strict.records, record.level = .trace) ∧ Agree strict lenient := by
  obtain ⟨same, traces⟩ := parse_of_compiled compiled
  have leniently := compiled
  rw [← same] at leniently
  have simulates := simulates_renderMessage (strictEnds message compiled)
    (lenientEnds message leniently)
  have quiet : ∀ record ∈ ({ engine with strict := true }.parse pattern).records,
      record.level ≠ .error := by
    intro record member
    rw [traces record member]
    decide
  simp only [format_of_ok compiled, format_of_ok leniently, same]
  refine ⟨?_, ?_, simulates.agree.behind quiet⟩
  · rw [simulates.silent, List.append_nil]
  · rwa [simulates.silent, List.append_nil]

/-- Two engines that differ only in how strict they are agree in every rendering: the strict one
fails with the first error that the lenient one records, and otherwise their texts are equal. -/
theorem strict_agrees_with_lenient (engine : Engine) (locale : String) (path : Option String)
    (arguments : Arguments) :
    (∀ (nodes : List Node) (ends : (engine.setting locale path arguments).Ends nodes),
      let strict := { engine with strict := true }.render locale path arguments nodes ends
      let lenient := { engine with strict := false }.render locale path arguments nodes ends
      strict.records = [] ∧ Agree strict lenient) ∧
    (∀ (pattern : String)
      (strictEnds : { engine with strict := true }.Ends locale path arguments pattern)
      (lenientEnds : { engine with strict := false }.Ends locale path arguments pattern),
      let strict := { engine with strict := true }.format locale path arguments pattern strictEnds
      let lenient :=
        { engine with strict := false }.format locale path arguments pattern lenientEnds
      (∃ text, lenient.result = .ok text) ∧
      (∀ error, ({ engine with strict := true }.parse pattern).result = .error error →
        strict = .error error ∧ lenient = .recorded pattern (.verbatim error pattern)) ∧
      (∀ message, ({ engine with strict := true }.parse pattern).result = .ok message →
        strict.records = ({ engine with strict := true }.parse pattern).records ∧
        (∀ record ∈ strict.records, record.level = .trace) ∧ Agree strict lenient)) := by
  constructor
  · intro nodes ends strict lenient
    have simulates : Simulates strict lenient := simulates_render ends ends
    exact ⟨simulates.silent, simulates.agree⟩
  · intro pattern strictEnds lenientEnds strict lenient
    refine ⟨?_, fun error refused => format_of_refused refused strictEnds lenientEnds,
      fun message compiled => format_of_compiled compiled strictEnds lenientEnds⟩
    cases parsed : ({ engine with strict := true }.parse pattern).result with
    | error error =>
        refine ⟨pattern, ?_⟩
        rw [show lenient = _ from (format_of_refused parsed strictEnds lenientEnds).2]
        rfl
    | ok message => exact (format_of_compiled parsed strictEnds lenientEnds).2.2.lenient_ok

theorem default_engines_agree :
    let engine : Engine := {}
    let error : Error := .pattern ⟨⟨1, 1⟩, .unmatchedBrace, false⟩
    (∃ ends, Agree
      ({ engine with strict := true }.render "en" none [] [.format "n" "count" none] ends)
      ({ engine with strict := false }.render "en" none [] [.format "n" "count" none] ends)) ∧
    (∃ ends, { engine with strict := false }.format "en" none [] "icu:\x7d" ends =
      .recorded "icu:\x7d" (.verbatim error "icu:\x7d")) ∧
    (∃ ends ends', Agree
      ({ engine with strict := true }.format "en" none [] "icu:#" ends)
      ({ engine with strict := false }.format "en" none [] "icu:#" ends')) := by
  intro engine error
  have builtin (strict : Bool) : { engine with strict := strict }.IsBuiltin :=
    default_isBuiltin strict .html _
  have ends (strict : Bool) (pattern : String) :
      { engine with strict := strict }.Ends "en" none [] pattern :=
    (builtin strict).format_ends "en" none [] pattern
  have refused : ({ engine with strict := true }.parse "icu:\x7d").result = .error error := by
    decide +kernel
  have compiled : ({ engine with strict := true }.parse "icu:#").result =
      .ok (.compiled [.text "#"]) := by
    decide +kernel
  refine ⟨⟨(builtin true).ends .., ?_⟩, ⟨ends false _, ?_⟩, ⟨ends true _, ends false _, ?_⟩⟩
  · exact ((strict_agrees_with_lenient engine "en" none []).1 _ _).2
  · exact (((strict_agrees_with_lenient engine "en" none []).2 _ (ends true _) _).2.1 error
      refused).2
  · exact (((strict_agrees_with_lenient engine "en" none []).2 _ _ _).2.2 _ compiled).2.2

end Parlance.Engine
