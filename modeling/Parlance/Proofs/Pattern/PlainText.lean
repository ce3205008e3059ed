import Parlance.Proofs.Pattern.Soundness
import Parlance.Proofs.Pattern.Completeness
import Parlance.Proofs.Pattern.OpeningSearch
import Parlance.Proofs.Render.Equations

namespace Parlance

open Parlance.Text

/-! # Plain text

Text in which nothing opens, closes or escapes spells itself, with number signs and backslashes in
it. No other text does: a text that is read as texts alone has only lost characters, namely the
backslashes of what it escapes. So plain text comes out of an engine as it is, whether the engine
reads it or not.
-/

namespace Node

theorem joinTexts_texts (first : String) (more : List String) :
    joinTexts ((first :: more).map .text) = [.text (String.join (first :: more))] := by
  induction more generalizing first with
  | nil =>
      rw [String.join_cons, String.join_nil, String.append_empty]
      rfl
  | cons second rest ih =>
      have later := ih second
      rw [List.map_cons, joinTexts, later, consJoined]
      simp only [String.join_cons]

theorem texts_of_consJoined {node : Node} {nodes : List Node} {value : String}
    (joined : consJoined node nodes = [.text value]) :
    ∃ first, node = .text first ∧
      (nodes = [] ∧ first = value ∨ ∃ more, nodes = [.text more] ∧ first ++ more = value) := by
  unfold consJoined at joined
  split at joined
  · rename_i first more rest
    cases joined
    exact ⟨first, rfl, Or.inr ⟨more, rfl, rfl⟩⟩
  · cases joined
    exact ⟨value, rfl, Or.inl ⟨rfl, rfl⟩⟩

theorem joinTexts_eq_nil {nodes : List Node} (joined : joinTexts nodes = []) : nodes = [] := by
  cases nodes with
  | nil => rfl
  | cons node rest =>
      unfold joinTexts consJoined at joined
      split at joined
      · cases joined
      · cases joined

/-- Nodes that are joined to one text are all texts. -/
theorem exists_texts_of_joinTexts {nodes : List Node} {value : String}
    (joined : joinTexts nodes = [.text value]) :
    ∃ texts : List String, nodes = texts.map .text ∧ String.join texts = value := by
  induction nodes generalizing value with
  | nil => cases joined
  | cons node rest ih =>
      obtain ⟨first, rfl, ⟨none, rfl⟩ | ⟨more, some, rfl⟩⟩ := texts_of_consJoined joined
      · cases joinTexts_eq_nil none
        exact ⟨[first], rfl, by rw [String.join_cons, String.join_nil, String.append_empty]⟩
      · obtain ⟨texts, rfl, rfl⟩ := ih some
        exact ⟨first :: texts, rfl, String.join_cons⟩

end Node

namespace Pattern

/-- Text without braces, without beginnings of tags and without escapes. -/
structure IsPlain (text : List Char) : Prop where
  noBrace : ∀ c ∈ text, isBrace c = false
  noTag : ∀ rest, '<' :: rest <:+ text → Stops isTagStart rest
  noEscape : ∀ rest, '\\' :: rest <:+ text → Stops isSpecial rest

variable {c : Char} {text rest : List Char}

theorem isPlain_nil : IsPlain [] :=
  ⟨by simp, by simp, by simp⟩

theorem isPlain_cons :
    IsPlain (c :: rest) ↔ isBrace c = false ∧ (c = '<' → Stops isTagStart rest) ∧
      (c = '\\' → Stops isSpecial rest) ∧ IsPlain rest := by
  constructor
  · intro plain
    refine ⟨plain.noBrace c List.mem_cons_self, ?_, ?_, ?_, ?_, ?_⟩
    · rintro rfl
      exact plain.noTag rest (List.suffix_refl _)
    · rintro rfl
      exact plain.noEscape rest (List.suffix_refl _)
    · exact fun d member => plain.noBrace d (List.mem_cons_of_mem c member)
    · exact fun more inside => plain.noTag more (inside.trans (List.suffix_cons c rest))
    · exact fun more inside => plain.noEscape more (inside.trans (List.suffix_cons c rest))
  · rintro ⟨brace, tag, escape, plain⟩
    refine ⟨fun d member => ?_, fun more inside => ?_, fun more inside => ?_⟩
    · rcases List.mem_cons.mp member with rfl | later
      · exact brace
      · exact plain.noBrace d later
    · rcases List.suffix_cons_iff.mp inside with same | later
      · cases same
        exact tag rfl
      · exact plain.noTag more later
    · rcases List.suffix_cons_iff.mp inside with same | later
      · cases same
        exact escape rfl
      · exact plain.noEscape more later

def decideIsPlain : (text : List Char) → Decidable (IsPlain text)
  | [] => isTrue isPlain_nil
  | _ :: rest =>
    have := decideIsPlain rest
    decidable_of_iff' _ isPlain_cons

instance : DecidablePred IsPlain := decideIsPlain

theorem isPlain_append (ordinary : ∀ c ∈ text, isOrdinary c = true) (plain : IsPlain rest) :
    IsPlain (text ++ rest) := by
  induction text with
  | nil => exact plain
  | cons c more ih =>
      have first := ordinary c List.mem_cons_self
      have later := ih fun d member => ordinary d (List.mem_cons_of_mem c member)
      simp only [isOrdinary, List.mem_cons, List.not_mem_nil, or_false, not_or,
        decide_eq_true_eq] at first
      refine isPlain_cons.mpr ⟨?_, fun angle => ?_, fun backslash => ?_, later⟩
      · simp [isBrace, first]
      · exact absurd angle first.2.2.1
      · exact absurd backslash first.2.2.2.1

variable {kinds : DirectiveKinds} {scope : Option String} {input : List Char}

section Reading

theorem braces_of_not_special (plain : isSpecial c = false) :
    isBrace c = false ∧ c ≠ '<' ∧ c ≠ '\\' := by
  simp only [isSpecial, List.mem_cons, List.not_mem_nil, or_false, decide_eq_false_iff_not,
    not_or] at plain
  simp [isBrace, plain]

/-- A lexeme of text is not shorter than the text. If it is as long, it escapes nothing and opens
nothing. -/
theorem Lexeme.isPlain {value : String} (lexeme : Lexeme kinds input (.text value) rest) :
    value.length + rest.length ≤ input.length ∧
      (value.length + rest.length = input.length → IsPlain rest → IsPlain input) := by
  cases lexeme with
  | run run =>
      refine ⟨by simp, fun _ plain => isPlain_append run.2 plain⟩
  | special special =>
      refine ⟨by simp; omega, fun same => ?_⟩
      simp at same
      omega
  | @verbatim c _ plain =>
      obtain ⟨brace, angle, backslash⟩ := braces_of_not_special plain
      refine ⟨by simp only [String.length_ofList, List.length_cons, List.length_nil]; omega,
        fun _ later => ?_⟩
      have behind : IsPlain (c :: rest) := isPlain_cons.mpr
        ⟨brace, fun same => absurd same angle, fun same => absurd same backslash, later⟩
      exact isPlain_cons.mpr ⟨by decide, by simp, fun _ => stops_cons plain, behind⟩
  | lastBackslash => exact ⟨by decide, fun _ _ => by decide⟩
  | angle noTag =>
      have length : "<".length = 1 := by decide
      refine ⟨by simp only [length, List.length_cons]; omega, fun _ plain => ?_⟩
      exact isPlain_cons.mpr ⟨by decide, fun _ => noTag, by simp, plain⟩

theorem Piece.isPlain {value : String} (piece : Piece kinds scope input (.text value) rest) :
    value.length + rest.length ≤ input.length ∧
      (value.length + rest.length = input.length → IsPlain rest → IsPlain input) := by
  cases piece with
  | text lexeme => exact lexeme.isPlain
  | literalSign lexeme =>
      cases lexeme
      have length : "#".length = 1 := by decide
      refine ⟨by simp only [length, List.length_cons]; omega, fun _ plain => ?_⟩
      exact isPlain_cons.mpr ⟨by decide, by simp, by simp, plain⟩

theorem Pieces.isPlain {texts : List String}
    (pieces : Pieces kinds scope input (texts.map .text) rest) :
    (String.join texts).length + rest.length ≤ input.length ∧
      ((String.join texts).length + rest.length = input.length → IsPlain rest → IsPlain input) := by
  induction texts generalizing input with
  | nil =>
      cases pieces
      exact ⟨by simp, fun _ plain => plain⟩
  | cons value more ih =>
      cases pieces with
      | cons first later =>
          obtain ⟨shorter, plain⟩ := first.isPlain
          obtain ⟨shorterMore, plainMore⟩ := ih later
          rw [String.join_cons, String.length_append]
          refine ⟨by omega, fun same end_ => ?_⟩
          exact plain (by omega) (plainMore (by omega) end_)

end Reading

section Writing

theorem singleton_append_ofList (c : Char) (rest : List Char) :
    String.singleton c ++ String.ofList rest = String.ofList (c :: rest) := by
  apply String.toList_inj.mp
  simp

/-- A character that is not part of an escape spells itself. -/
theorem piece_of_isPlain (backslash : c ≠ '\\') (plain : IsPlain (c :: rest)) :
    Piece kinds none (c :: rest) (.text (String.singleton c)) rest := by
  obtain ⟨brace, tag, _, _⟩ := isPlain_cons.mp plain
  by_cases sign : c = '#'
  · subst sign
    exact .literalSign .numberSign
  by_cases angle : c = '<'
  · subst angle
    exact .text (.angle (tag rfl))
  simp only [isBrace, List.mem_cons, List.not_mem_nil, or_false, decide_eq_false_iff_not,
    not_or] at brace
  have ordinary : isOrdinary c = true :=
    isOrdinary_of_ne backslash sign brace.1 angle brace.2
  have run : IsRun isOrdinary [c] :=
    ⟨List.cons_ne_nil _ _, fun d member => List.mem_singleton.mp member ▸ ordinary⟩
  exact .text (.run run)

/-- Plain text is spelled by texts that make it up. -/
theorem IsPlain.pieces : ∀ {text : List Char}, IsPlain text →
    ∃ texts : List String, Pieces kinds none text (texts.map .text) [] ∧
      String.join texts = String.ofList text
  | [], _ => ⟨[], .nil, rfl⟩
  | c :: rest, plain => by
      obtain ⟨_, _, escape, later⟩ := isPlain_cons.mp plain
      by_cases backslash : c = '\\'
      · subst backslash
        -- a backslash that escapes nothing takes the next character with it
        cases rest with
        | nil => exact ⟨["\\"], .cons (.text .lastBackslash) .nil, rfl⟩
        | cons next rest =>
            obtain ⟨texts, pieces, whole⟩ := (isPlain_cons.mp later).2.2.2.pieces
            have verbatim : isSpecial next = false := escape rfl next rfl
            refine ⟨String.ofList ['\\', next] :: texts,
              .cons (.text (.verbatim verbatim)) pieces, ?_⟩
            rw [String.join_cons, whole, ← String.ofList_append]
            rfl
      · obtain ⟨texts, pieces, whole⟩ := later.pieces
        refine ⟨String.singleton c :: texts, .cons (piece_of_isPlain backslash plain) pieces, ?_⟩
        rw [String.join_cons, whole, singleton_append_ofList]

end Writing

theorem spells_of_isPlain {text : String} (nonempty : text ≠ "") (plain : IsPlain text.toList) :
    Spells kinds text [.text text] := by
  obtain ⟨texts, pieces, whole⟩ := plain.pieces
  rw [String.ofList_toList] at whole
  refine ⟨texts.map .text, pieces, ?_⟩
  cases texts with
  | nil => exact absurd whole.symm nonempty
  | cons first more => rw [Node.joinTexts_texts, whole]

theorem isPlain_of_spells {text : String} (spelled : Spells kinds text [.text text]) :
    IsPlain text.toList := by
  obtain ⟨nodes, pieces, joined⟩ := spelled
  obtain ⟨texts, rfl, whole⟩ := Node.exists_texts_of_joinTexts joined
  obtain ⟨_, plain⟩ := pieces.isPlain
  rw [whole, ← String.length_toList] at plain
  exact plain (by simp) isPlain_nil

/-- Plain text has no opening of a directive or of a tag. -/
theorem IsPlain.not_needsReading {text : String} (plain : IsPlain text.toList) :
    needsReading text = false := by
  refine Bool.eq_false_iff.mpr fun found => ?_
  rcases needsReading_iff.mp found with ⟨_, isOpening, before, more, split⟩ |
    ⟨_, isOpening, before, more, split⟩
  · cases isOpening with
    | words _ _ _ =>
        have brace := plain.noBrace '{' (split ▸ by simp)
        contradiction
  · cases isOpening with
    | @named first name gap letter _ _ =>
        rw [List.append_assoc] at split
        have stops : isTagStart first = false := plain.noTag _ ⟨before, split⟩ first rfl
        simp [isTagStart, letter] at stops

end Pattern

namespace Engine

open Pattern Parlance.Format Parlance.Render

variable {engine : Engine} {locale : String} {path : Option String} {arguments : Arguments}
  {text : String}

theorem unmarked?_of_mark (text : String) : unmarked? ("icu:" ++ text) = some text := by
  have marked : ("icu:" ++ text).toList = forceMark ++ text.toList := by
    rw [String.toList_append]
    rfl
  have begins : forceMark.isPrefixOf ("icu:" ++ text).toList = true := by
    rw [marked]
    exact List.isPrefixOf_iff_prefix.mpr (List.prefix_append _ _)
  rw [unmarked?, if_pos begins, marked, List.drop_left, String.ofList_toList]

/-- A pattern that is not read is its own text. -/
theorem format_of_plain (parsed : engine.parse text = .ok (.plain text)) :
    ∃ ends, engine.format locale path arguments text ends = .ok text := by
  have result : (engine.parse text).result = .ok (.plain text) := by
    rw [parsed]
    rfl
  have ends : engine.Ends locale path arguments text := by
    intro message compiled
    cases result.symm.trans compiled
    exact Setting.ends_nil
  refine ⟨ends, ?_⟩
  rw [format_of_ok result, parsed]
  rfl

/-- A pattern that is read as one text is that text. -/
theorem format_of_text {pattern : String}
    (parsed : engine.parse pattern = compile [.text text]) :
    ∃ ends, engine.format locale path arguments pattern ends = .recorded text (.compiled 1) := by
  have result : (engine.parse pattern).result = .ok (.compiled [.text text]) := by
    rw [parsed]
    rfl
  have ends : engine.Ends locale path arguments pattern := by
    intro message compiled
    cases result.symm.trans compiled
    exact Setting.ends_text Setting.ends_nil text
  refine ⟨ends, ?_⟩
  have rendered (ends : (engine.setting locale path arguments).Ends [.text text]) :
      engine.render locale path arguments [.text text] ends = .ok text := by
    rw [Engine.render, renderList_text, renderList_nil, Outcome.append_ok_empty]
  have message : engine.renderMessage locale path arguments (.compiled [.text text])
      (ends _ result) = .ok text := rendered _
  rw [format_of_ok result, message, parsed]
  rfl

/-- A text spells itself and nothing else exactly if it is plain. An engine then gives it back,
whether the engine is made to read it or not. -/
theorem plain_text_is_fixed (text : String) (nonempty : text ≠ "") :
    (∀ kinds, Pattern.parse kinds text = .ok [.text text] ↔ IsPlain text.toList) ∧
    (IsPlain text.toList → ¬ forceMark <+: text.toList →
      ∀ (engine : Engine) (locale : String) (path : Option String) (arguments : Arguments),
        (∃ ends, engine.format locale path arguments text ends = .ok text) ∧
        ∃ ends, engine.format locale path arguments ("icu:" ++ text) ends =
          .recorded text (.compiled 1)) := by
  refine ⟨fun kinds => ⟨fun read => isPlain_of_spells (spells_of_parse read),
    fun plain => parse_of_spells (spells_of_isPlain nonempty plain)⟩, ?_⟩
  intro plain unmarked engine locale path arguments
  constructor
  · apply format_of_plain
    have noMark : unmarked? text = none := by
      rw [unmarked?, if_neg]
      rwa [List.isPrefixOf_iff_prefix]
    simp only [Engine.parse, sourceOf?, noMark, plain.not_needsReading, Bool.false_eq_true, if_false]
  · apply format_of_text
    have read : Pattern.parse engine.registry.directiveKinds text = .ok [.text text] :=
      parse_of_spells (spells_of_isPlain nonempty plain)
    simp only [Engine.parse, sourceOf?, unmarked?_of_mark, readNodes, read, Except.mapError]

theorem stray_marks_are_fixed :
    let text := "1 < 2 # \\n </ \\"
    let plain := "1 < 2 # \\n \\"
    let engine : Engine := { strict := true }
    Pattern.parse engine.registry.directiveKinds plain = .ok [.text plain] ∧
      Pattern.parse engine.registry.directiveKinds text ≠ .ok [.text text] ∧
      (∃ ends, engine.format "en" none [] plain ends = .ok plain) ∧
      ∃ ends, engine.format "en" none [] ("icu:" ++ plain) ends = .recorded plain (.compiled 1) := by
  intro text plain engine
  obtain ⟨read, formatted⟩ := plain_text_is_fixed plain (by decide)
  obtain ⟨spelled, _⟩ := plain_text_is_fixed text (by decide)
  have isPlain : IsPlain plain.toList := by decide +kernel
  refine ⟨(read _).mpr isPlain, fun same => ?_, formatted isPlain (by decide) engine "en" none []⟩
  have notPlain : ¬ IsPlain text.toList := by decide +kernel
  exact notPlain ((spelled _).mp same)

end Engine

end Parlance
