import Parlance.Proofs.Pattern.Continuations
import Parlance.Proofs.Pattern.Spelling

namespace Parlance.Pattern

/-! # Patterns one behind the other

Two patterns that are read are also read one behind the other, and what is read is the first message
with the second behind it. The first pattern must not end in a character whose meaning hangs on what
follows, and the second must bring no quote for a value that the first leaves open.
-/

/-- The second text does not change how the first is read. -/
structure Joins (first second : List Char) : Prop where
  ending : ∀ c ∈ first.getLast?, c ≠ '<' ∧ c ≠ '\\'
  quotes : NoQuote first ∨ NoQuote second

variable {kinds : DirectiveKinds} {input rest more : List Char}

theorem Joins.of_suffix (joins : Joins input more) (suffix : rest <:+ input) : Joins rest more := by
  refine ⟨fun c last => ?_, joins.quotes.imp_left fun plain c member => ?_⟩
  · obtain ⟨before, rfl⟩ := suffix
    apply joins.ending c
    rw [Option.mem_def] at last ⊢
    rw [List.getLast?_append, last, Option.some_or]
  · exact plain c (suffix.subset member)

theorem Joins.replaces (joins : Joins input more) (rest : List Char) :
    Replaces input rest (rest ++ more) := by
  refine ⟨fun c member quote present => ?_, fun angle stops => ?_⟩
  · rcases List.mem_append.mp member with inside | behind
    · exact inside
    · rcases joins.quotes with plain | plain
      · exact absurd quote (Bool.eq_false_iff.mp (plain c present))
      · exact absurd quote (Bool.eq_false_iff.mp (plain c behind))
  · subst angle
    cases rest with
    | nil => exact absurd rfl (joins.ending '<' rfl).1
    | cons c behind => exact stops

theorem Word.extend {isMember : Char → Bool} {word : String} {c : Char}
    (named : Word isMember input word (c :: rest)) :
    Word isMember (input ++ more) word (c :: (rest ++ more)) := by
  obtain ⟨taken, rfl, refit⟩ := named.taken
  rw [List.append_assoc]
  exact refit _

theorem ClosingTag.extend {name : String} (closing : ClosingTag input name rest) :
    ClosingTag (input ++ more) name (rest ++ more) := by
  obtain ⟨taken, rfl, refit⟩ := closing.taken
  rw [List.append_assoc]
  exact refit _

theorem Lexeme.extend {token : Token} (lexeme : Lexeme kinds input token rest)
    (joins : Joins input more) : Lexeme kinds (input ++ more) token (rest ++ more) := by
  rcases lexeme.taken with ⟨rfl, _, _⟩ | ⟨taken, rfl, refit⟩
  · exact absurd rfl (joins.ending '\\' rfl).2
  · rw [List.append_assoc]
    exact refit _ (joins.replaces rest)

mutual

theorem Piece.extend {input rest : List Char} {node : Node} :
    ∀ {scope : Option String}, Piece kinds scope input node rest → Joins input more →
      Piece kinds scope (input ++ more) node (rest ++ more)
  | _, .text lexeme, joins => .text (lexeme.extend joins)
  | _, .literalSign lexeme, joins => .literalSign (lexeme.extend joins)
  | _, .count lexeme, joins => .count (lexeme.extend joins)
  | _, .format lexeme, joins => .format (lexeme.extend joins)
  | _, .message lexeme branches nonempty distinct, joins =>
      .message (lexeme.extend joins) (branches.extend (joins.of_suffix lexeme.suffix)) nonempty
        distinct
  | _, .tag lexeme children closed, joins =>
      .tag (lexeme.extend joins) (children.extend (joins.of_suffix lexeme.suffix)) closed.extend

/-- What spells a message spells it in front of more text. -/
theorem Pieces.extend {input rest : List Char} {nodes : List Node} :
    ∀ {scope : Option String}, Pieces kinds scope input nodes rest → Joins input more →
      Pieces kinds scope (input ++ more) nodes (rest ++ more)
  | _, .nil, _ => .nil
  | _, .cons first later, joins =>
      .cons (first.extend joins) (later.extend (joins.of_suffix first.suffix))

theorem Branches.extend {input rest : List Char} {entries : List (String × List Node)} :
    ∀ {scope : Option String}, Branches kinds scope input entries rest → Joins input more →
      Branches kinds scope (input ++ more) entries (rest ++ more)
  | _, .close blank, _ => by
      rw [List.append_assoc, List.cons_append]
      exact .close blank
  | _, .branch keyed message later, joins => by
      have inside := joins.of_suffix ((List.suffix_cons _ _).trans keyed.suffix)
      have behind := inside.of_suffix ((List.suffix_cons _ _).trans message.suffix)
      exact .branch keyed.extend (message.extend inside) (later.extend behind)

end

/-- Reading respects concatenation: of two messages that are read apart, only the texts that meet
are changed when their patterns stand one behind the other. -/
theorem parse_append {first second : String} {nodes more : List Node}
    (readFirst : parse kinds first = .ok nodes) (readSecond : parse kinds second = .ok more)
    (ending : ∀ c ∈ first.toList.getLast?, c ≠ '<' ∧ c ≠ '\\')
    (quotes : NoQuote first.toList ∨ NoQuote second.toList) :
    parse kinds (first ++ second) = .ok (Node.appendJoined nodes more) := by
  obtain ⟨pieces, written, rfl⟩ := spells_of_parse readFirst
  obtain ⟨later, writtenLater, rfl⟩ := spells_of_parse readSecond
  apply parse_of_spells
  refine ⟨pieces ++ later, ?_, Node.joinTexts_append pieces later⟩
  rw [String.toList_append]
  exact (written.extend ⟨ending, quotes⟩).append writtenLater

/-- A quote that the first pattern never closes stays in the value. -/
theorem parse_append_unclosed :
    parse ⟨fun _ => false, fun _ => false⟩ "<b t=\"d>x</b> 1 < " =
        .ok [.tag "b" [("t", some "\"d")] [.text "x"], .text " 1 < "] ∧
      parse ⟨fun _ => false, fun _ => false⟩ "2\x7bn\x7d" =
        .ok [.text "2", .format "n" valueKind none] ∧
      parse ⟨fun _ => false, fun _ => false⟩ ("<b t=\"d>x</b> 1 < " ++ "2\x7bn\x7d") =
        .ok [.tag "b" [("t", some "\"d")] [.text "x"], .text " 1 < 2",
          .format "n" valueKind none] := by
  have first : parse ⟨fun _ => false, fun _ => false⟩ "<b t=\"d>x</b> 1 < " =
      .ok [.tag "b" [("t", some "\"d")] [.text "x"], .text " 1 < "] := by decide +kernel
  have second : parse ⟨fun _ => false, fun _ => false⟩ "2\x7bn\x7d" =
      .ok [.text "2", .format "n" valueKind none] := by decide +kernel
  exact ⟨first, second, parse_append first second (by simp) (Or.inr (by decide))⟩

end Parlance.Pattern
