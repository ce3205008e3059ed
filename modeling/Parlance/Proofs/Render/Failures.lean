import Parlance.Proofs.Render.Visits

namespace Parlance

/-! # Where failures come from

A built-in formatter fails because of its argument, because of a style that it does not know, or
because its directive has a style where it needs branches. An error that a rendering tells of is
that of a node that the rendering comes to.
-/

namespace Format

/-- The failure is one of the argument of a directive, or of the branch that is chosen by it. -/
inductive Error.ConcernsArgument (argument : String) : Error → Prop
  | missing : ConcernsArgument argument (.missingArgument argument)
  | wrong : ConcernsArgument argument (.wrongArgument argument expected found)
  | branch : ConcernsArgument argument (.missingBranch argument key available likely)

variable {context : Context} {directive : Directive} {arguments : Arguments} {error : Error}

section Arguments

variable {name : String} {branches : List (String × List Node)}

theorem concernsArgument_of_argumentOf (failed : argumentOf arguments name = .error error) :
    error.ConcernsArgument name := by
  unfold argumentOf at failed
  split at failed
  · contradiction
  · cases failed
    exact .missing

theorem concernsArgument_of_numberOf (failed : numberOf arguments name = .error error) :
    error.ConcernsArgument name := by
  unfold numberOf at failed
  split at failed
  · rename_i missing
    cases failed
    exact concernsArgument_of_argumentOf missing
  · split at failed
    · contradiction
    · cases failed
      exact .wrong

theorem concernsArgument_of_selectBranch {key : String}
    (failed : selectBranch name branches key = .error error) : error.ConcernsArgument name := by
  unfold selectBranch at failed
  split at failed
  · contradiction
  · cases failed
    exact .branch

theorem concernsArgument_of_pluralBranch {pluralKind : Plural.Kind}
    (failed : pluralBranch pluralKind context directive branches arguments = .error error) :
    error.ConcernsArgument directive.argument := by
  unfold pluralBranch at failed
  split at failed
  · rename_i uncounted
    cases failed
    exact concernsArgument_of_numberOf uncounted
  · split at failed
    · contradiction
    · exact concernsArgument_of_selectBranch failed

theorem concernsArgument_of_textBranch
    (failed : textBranch directive branches arguments = .error error) :
    error.ConcernsArgument directive.argument := by
  unfold textBranch at failed
  split at failed
  · rename_i missing
    cases failed
    exact concernsArgument_of_argumentOf missing
  · exact concernsArgument_of_selectBranch failed

end Arguments

namespace Formatter

/-- The ways in which a built-in formatter fails. -/
inductive Fails (formatter : Formatter) (directive : Directive) : Error → Prop
  | argument {failure : Error} (concerns : failure.ConcernsArgument directive.argument) :
      Fails formatter directive failure
  | style (styles : formatter = .number ∨ formatter = .date) :
      Fails formatter directive (.invalidStyle directive.kind style)
  | branches {failure : Error} (branching : formatter.isBranching = true)
      (unbranched : directive.branches = .error failure) : Fails formatter directive failure

theorem fails_of_numberText (failed : numberText directive arguments = .error error) :
    number.Fails directive error := by
  unfold numberText at failed
  split at failed
  · rename_i uncounted
    cases failed
    exact .argument (concernsArgument_of_numberOf uncounted)
  · split at failed
    · contradiction
    · split at failed
      · contradiction
      · split at failed
        · contradiction
        · cases failed
          exact .style (Or.inl rfl)

theorem fails_of_dateText (failed : dateText directive arguments = .error error) :
    date.Fails directive error := by
  unfold dateText at failed
  split at failed
  · rename_i missing
    cases failed
    exact .argument (concernsArgument_of_argumentOf missing)
  · split at failed
    · contradiction
    · cases failed
      exact .style (Or.inr rfl)
  · cases failed
    exact .argument .wrong

theorem fails_of_choose {isCounting : Bool}
    {choose : Context → Directive → List (String × List Node) → Arguments →
      Except Error (List Node)}
    (concerns : ∀ branches, choose context directive branches arguments = .error error →
      error.ConcernsArgument directive.argument)
    (failed : (ofBranches isCounting choose).format context directive arguments = .error error) :
    (ofBranches isCounting choose).Fails directive error := by
  simp only [ofBranches] at failed
  split at failed
  · rename_i unbranched
    cases failed
    exact .branches rfl unbranched
  · exact .argument (concerns _ (Pattern.error_of_map failed))

theorem IsBuiltin.fails {formatter : Formatter} (builtin : formatter.IsBuiltin)
    (failed : formatter.format context directive arguments = .error error) :
    formatter.Fails directive error := by
  cases builtin with
  | count =>
      exact .argument (concernsArgument_of_numberOf (Pattern.error_of_map (Pattern.error_of_map failed)))
  | number => exact fails_of_numberText (Pattern.error_of_map failed)
  | value =>
      exact .argument (concernsArgument_of_argumentOf (Pattern.error_of_map (Pattern.error_of_map failed)))
  | date => exact fails_of_dateText (Pattern.error_of_map failed)
  | plural => exact fails_of_choose (fun _ => concernsArgument_of_pluralBranch) failed
  | select => exact fails_of_choose (fun _ => concernsArgument_of_textBranch) failed

end Formatter

end Format

namespace Render

open Parlance.Format Parlance.Markup

def Record.error? : Record → Option Error
  | .omitted _ _ _ error => some error
  | .verbatim error _ => some error
  | .compiled _ => none
  | .registered .. => none

/-- The error is the result of the step, or one of its records is of the error. -/
def Outcome.TellsOf {α : Type} (outcome : Outcome α) (error : Error) : Prop :=
  outcome.result = .error error ∨ ∃ record ∈ outcome.records, record.error? = some error

variable {setting : Setting} {error : Error}

theorem Outcome.not_tellsOf_ok (text : String) : ¬ (Outcome.ok text).TellsOf error := by
  rintro (failed | ⟨record, member, _⟩)
  · cases failed
  · cases member

theorem Outcome.tellsOf_of_append {first second : Outcome String}
    (tells : (first.append second).TellsOf error) : first.TellsOf error ∨ second.TellsOf error := by
  obtain ⟨result, records⟩ := first
  obtain ⟨result', records'⟩ := second
  cases result with
  | error failure => exact Or.inl tells
  | ok text =>
      have recorded : (∃ record ∈ records ++ records', record.error? = some error) →
          Outcome.TellsOf ⟨.ok text, records⟩ error ∨
            Outcome.TellsOf ⟨result', records'⟩ error := by
        rintro ⟨record, member, told⟩
        rcases List.mem_append.mp member with before | behind
        · exact Or.inl (Or.inr ⟨record, before, told⟩)
        · exact Or.inr (Or.inr ⟨record, behind, told⟩)
      cases result' with
      | error failure =>
          rcases tells with failed | told
          · cases failed
            exact Or.inr (Or.inl rfl)
          · exact recorded told
      | ok more =>
          rw [append_ok] at tells
          rcases tells with failed | told
          · cases failed
          · exact recorded told

namespace Setting

theorem eq_of_recover_tellsOf {argument kind : String} {failure : Error}
    (tells : (setting.recover argument kind failure).TellsOf error) : failure = error := by
  unfold recover at tells
  split at tells
  · rcases tells with failed | ⟨record, member, _⟩
    · cases failed
      rfl
    · cases member
  · rcases tells with failed | ⟨record, member, told⟩
    · cases failed
    · cases List.mem_singleton.mp member
      cases told
      rfl

/-- The node fails by itself: the formatter of its directive fails, or there is none, or the tag
formatter fails. -/
inductive FailsWith (setting : Setting) : Node → Error → Prop
  | directive {directive : Directive} {failure : Error}
      (failed : setting.format directive = .error failure) :
      FailsWith setting directive.toNode failure
  | tag {element : Element} {failure : Error} (failed : setting.wrap element = .error failure) :
      FailsWith setting element.toNode failure

theorem failsWith_of_renderDirective {directive : Directive}
    {goOn : ∀ nodes, setting.format directive = .ok (.nodes nodes) → Outcome String}
    (tells : (renderDirective setting directive goOn).TellsOf error) :
    setting.FailsWith directive.toNode error ∨
      ∃ nodes formatted, (goOn nodes formatted).TellsOf error := by
  obtain ⟨result, formatted⟩ : ∃ result, setting.format directive = result := ⟨_, rfl⟩
  cases result with
  | error failure =>
      rw [renderDirective_of_error formatted] at tells
      cases eq_of_recover_tellsOf tells
      exact Or.inl (.directive formatted)
  | ok found =>
      cases found with
      | text text =>
          rw [renderDirective_of_text formatted] at tells
          exact absurd tells (Outcome.not_tellsOf_ok text)
      | nodes nodes =>
          rw [renderDirective_of_nodes formatted] at tells
          exact Or.inr ⟨nodes, formatted, tells⟩

theorem failsWith_of_renderTag {element : Element}
    {goOn : ∀ wrapping, setting.wrap element = .ok wrapping → Outcome String}
    (tells : (renderTag setting element goOn).TellsOf error) :
    setting.FailsWith element.toNode error ∨
      ∃ wrapping wrapped, (goOn wrapping wrapped).TellsOf error := by
  obtain ⟨result, wrapped⟩ : ∃ result, setting.wrap element = result := ⟨_, rfl⟩
  cases result with
  | error failure =>
      rw [renderTag_of_error wrapped] at tells
      cases eq_of_recover_tellsOf tells
      exact Or.inl (.tag wrapped)
  | ok wrapping =>
      rw [renderTag_of_wrapping wrapped] at tells
      rcases Outcome.tellsOf_of_append tells with before | closing
      · rcases Outcome.tellsOf_of_append before with opening | inside
        · exact absurd opening (Outcome.not_tellsOf_ok _)
        · exact Or.inr ⟨wrapping, wrapped, inside⟩
      · exact absurd closing (Outcome.not_tellsOf_ok _)

theorem failsWith_of_renderNode {node : Node}
    {goOn : ∀ inner, Enters setting.format setting.wrap node inner → Outcome String}
    (tells : (renderNode setting node goOn).TellsOf error) :
    setting.FailsWith node error ∨ ∃ inner entered, (goOn inner entered).TellsOf error := by
  cases node with
  | text value => exact absurd tells (Outcome.not_tellsOf_ok value)
  | format | message =>
      rcases failsWith_of_renderDirective tells with fails | ⟨nodes, formatted, inside⟩
      · exact Or.inl fails
      · exact Or.inr ⟨nodes, _, inside⟩
  | tag name attributes children =>
      rcases failsWith_of_renderTag tells with fails | ⟨wrapping, wrapped, inside⟩
      · exact Or.inl fails
      · exact Or.inr ⟨wrapping.children, _, inside⟩

/-- Every error that a rendering tells of is that of a node that it comes to. -/
theorem exists_visited_of_tellsOf {nodes : List Node} (ends : setting.Ends nodes)
    (tells : (renderList setting nodes ends).TellsOf error) :
    ∃ node, setting.Visits node nodes ∧ setting.FailsWith node error := by
  induction ends with
  | intro nodes _ ih =>
      cases nodes with
      | nil =>
          rw [renderList_nil] at tells
          exact absurd tells (Outcome.not_tellsOf_ok "")
      | cons node rest =>
          rw [renderList_cons] at tells
          rcases Outcome.tellsOf_of_append tells with here | behind
          · rcases failsWith_of_renderNode here with fails | ⟨inner, entered, inside⟩
            · exact ⟨node, .here, fails⟩
            · obtain ⟨found, visits, fails⟩ := ih inner (.enter entered) inside
              exact ⟨found, .later (.enter entered) visits, fails⟩
          · obtain ⟨found, visits, fails⟩ := ih rest .rest behind
            exact ⟨found, .later .rest visits, fails⟩

end Setting

end Render

end Parlance
