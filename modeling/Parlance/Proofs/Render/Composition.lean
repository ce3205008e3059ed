import Parlance.Proofs.Render.Equations

namespace Parlance

open Parlance.Format Parlance.Markup

/-! # Messages that are rendered alike

Two messages are rendered alike if neither their outcomes nor whether the renderings end tell them
apart. Parts of a message may be replaced by others that are rendered alike: texts that follow each
other by one text, and a directive by the nodes that its formatter goes on with.
-/

namespace Render

namespace Outcome

theorem append_of_error {first : Outcome String} {failure : Error}
    (failed : first.result = .error failure) (second : Outcome String) :
    first.append second = first := by
  obtain ⟨result, records⟩ := first
  cases failed
  rfl

theorem append_of_ok {first : Outcome String} {text : String} (written : first.result = .ok text)
    (second : Outcome String) :
    first.append second = ⟨second.result.map (text ++ ·), first.records ++ second.records⟩ := by
  obtain ⟨result, records⟩ := first
  obtain ⟨more, later⟩ := second
  cases written
  cases more with
  | error error => rfl
  | ok more => exact append_ok text more records later

end Outcome

variable {setting : Setting}

namespace Setting

/-- The renderings of the messages have the same outcome, and one of them ends if the other does. -/
structure Alike (setting : Setting) (first second : List Node) : Prop where
  ends_iff : setting.Ends first ↔ setting.Ends second
  rendered : ∀ ends ends', renderList setting first ends = renderList setting second ends'

namespace Alike

variable {first second third more more' rest rest' nodes : List Node}

theorem refl (nodes : List Node) : setting.Alike nodes nodes :=
  ⟨Iff.rfl, fun _ _ => rfl⟩

theorem symm (alike : setting.Alike first second) : setting.Alike second first :=
  ⟨alike.ends_iff.symm, fun ends ends' => (alike.rendered ends' ends).symm⟩

theorem trans (alike : setting.Alike first second) (later : setting.Alike second third) :
    setting.Alike first third where
  ends_iff := alike.ends_iff.trans later.ends_iff
  rendered ends ends' :=
    (alike.rendered ends (alike.ends_iff.mp ends)).trans (later.rendered _ ends')

theorem append (alike : setting.Alike first second) (behind : setting.Alike more more') :
    setting.Alike (first ++ more) (second ++ more') where
  ends_iff := by rw [ends_append, ends_append, alike.ends_iff, behind.ends_iff]
  rendered ends ends' := by
    obtain ⟨endsFirst, endsMore⟩ := ends_append.mp ends
    obtain ⟨endsFirst', endsMore'⟩ := ends_append.mp ends'
    rw [renderList_append endsFirst endsMore, renderList_append endsFirst' endsMore',
      alike.rendered, behind.rendered]

theorem cons (node : Node) (alike : setting.Alike rest rest') :
    setting.Alike (node :: rest) (node :: rest') :=
  (refl [node]).append alike

theorem texts (value later : String) (rest : List Node) :
    setting.Alike (.text value :: .text later :: rest) (.text (value ++ later) :: rest) where
  ends_iff := by
    constructor
    · intro ends
      exact ends_text (ends.inv .rest |>.inv .rest) _
    · intro ends
      exact ends_text (ends_text (ends.inv .rest) _) _
  rendered ends ends' := by
    rw [renderList_text, renderList_text, renderList_text, ← Outcome.append_assoc]
    rfl

theorem consJoined (node : Node) (nodes : List Node) :
    setting.Alike (Node.consJoined node nodes) (node :: nodes) := by
  cases node with
  | text first =>
      cases nodes with
      | nil => exact refl _
      | cons next rest =>
          cases next with
          | text second => exact (texts first second rest).symm
          | format | message | tag => exact refl _
  | format | message | tag => exact refl _

theorem joinTexts (nodes : List Node) : setting.Alike (Node.joinTexts nodes) nodes := by
  induction nodes with
  | nil => exact refl []
  | cons node rest ih => exact (consJoined node _).trans (cons node ih)

/-- A directive is rendered as the nodes that its formatter goes on with. -/
theorem of_nodes {directive : Directive}
    (formatted : setting.format directive = .ok (.nodes nodes)) (rest : List Node) :
    setting.Alike (directive.toNode :: rest) (nodes ++ rest) where
  ends_iff := by
    simp only [ends_directive, ends_append, formatted, Except.ok.injEq, Formatted.nodes.injEq,
      forall_eq']
  rendered ends ends' := by
    obtain ⟨endsNodes, endsRest⟩ := ends_append.mp ends'
    rw [renderList_of_nodes formatted, renderList_append endsNodes endsRest]

/-- Directives are told apart only by what their formatters give for them, and by what is recorded
of them if they fail. -/
theorem of_format_eq {directive other : Directive}
    (same : setting.format directive = setting.format other)
    (argument : directive.argument = other.argument) (kind : directive.kind = other.kind)
    (alike : setting.Alike rest rest') :
    setting.Alike (directive.toNode :: rest) (other.toNode :: rest') where
  ends_iff := by simp only [ends_directive, same, alike.ends_iff]
  rendered ends ends' := by
    cases formatted : setting.format other with
    | error error =>
        rw [formatted] at same
        rw [renderList_of_error same, renderList_of_error formatted, argument, kind,
          alike.rendered]
    | ok found =>
        rw [formatted] at same
        cases found with
        | text text => rw [renderList_of_text same, renderList_of_text formatted, alike.rendered]
        | nodes nodes =>
            rw [renderList_of_nodes same, renderList_of_nodes formatted, alike.rendered]

section Tags

variable {name : String} {attributes : List (String × Option String)}
  {children children' : List Node}

theorem of_refused {error : Error}
    (refused : setting.wrap ⟨name, attributes, children⟩ = .error error)
    (refused' : setting.wrap ⟨name, attributes, children'⟩ = .error error)
    (alike : setting.Alike rest rest') :
    setting.Alike (.tag name attributes children :: rest)
      (.tag name attributes children' :: rest') where
  ends_iff := by simp [ends_tag, refused, refused', alike.ends_iff]
  rendered ends ends' := by
    rw [renderList_of_refused refused, renderList_of_refused refused', alike.rendered]

theorem of_wrappings {wrapping wrapping' : Wrapping}
    (wrapped : setting.wrap ⟨name, attributes, children⟩ = .ok wrapping)
    (wrapped' : setting.wrap ⟨name, attributes, children'⟩ = .ok wrapping')
    (opening : wrapping.opening = wrapping'.opening)
    (closing : wrapping.closing = wrapping'.closing)
    (inside : setting.Alike wrapping.children wrapping'.children)
    (alike : setting.Alike rest rest') :
    setting.Alike (.tag name attributes children :: rest)
      (.tag name attributes children' :: rest') where
  ends_iff := by
    simp [ends_tag, wrapped, wrapped', inside.ends_iff, alike.ends_iff]
  rendered ends ends' := by
    rw [renderList_of_wrapping wrapped, renderList_of_wrapping wrapped', opening, closing,
      inside.rendered, alike.rendered]

end Tags

end Alike

end Setting

end Render

end Parlance
