import Parlance.Proofs.Pattern.Endings
import Parlance.Proofs.Pattern.Joining

namespace Parlance.Pattern

/-! # Every spelling is read

The reader goes through a derivation of the grammar piece by piece. This holds on every stack of
open frames whose innermost counting directive is that of the derivation.
-/

variable {kinds : DirectiveKinds} {outer : Option String}

theorem run_of_lexeme {input rest : List Char} {token : Token}
    (lexeme : Lexeme kinds input token rest) (frames : List Frame) (nodes : List Node) :
    run kinds outer ⟨frames, nodes⟩ input =
      goOn kinds outer (accept kinds outer ⟨frames, nodes⟩ token rest) := by
  rcases lexeme.read with read | ⟨text, ordinary, rfl, rfl⟩
  · exact run_of_token read
  · exact run_text ordinary frames nodes

theorem run_of_end {reading : Reading} {input : List Char}
    (ends : readToken kinds input = .ok none) :
    run kinds outer reading input = goOn kinds outer (close reading input) := by
  rw [run_eq_goOn, step, ends]

theorem ClosingTag.ends {input rest : List Char} {name : String}
    (closing : ClosingTag input name rest) : readToken kinds input = .ok none := by
  obtain ⟨blanks, _, rfl⟩ := closing
  rfl

mutual

theorem Piece.run {input rest : List Char} {node : Node} :
    ∀ {scope : Option String}, Piece kinds scope input node rest →
      ∀ (frames : List Frame) (nodes : List Node), countedArgument kinds outer frames = scope →
        run kinds outer ⟨frames, nodes⟩ input = run kinds outer ⟨frames, node :: nodes⟩ rest
  | _, .text lexeme, frames, nodes, _ => run_of_lexeme lexeme frames nodes
  | _, .literalSign lexeme, frames, nodes, counted => by
      rw [run_of_lexeme lexeme, accept, counted]
      rfl
  | _, .count lexeme, frames, nodes, counted => by
      rw [run_of_lexeme lexeme, accept, counted]
      rfl
  | _, .format lexeme, frames, nodes, _ => run_of_lexeme lexeme frames nodes
  | _, .message lexeme branches nonempty distinct, frames, nodes, counted => by
      have read := branches.run nodes _ _ [] frames (congrArg (branchScope kinds · _ _) counted)
        (Or.inr nonempty) (by simp [Keyed.keys]) distinct
      rw [run_of_lexeme lexeme, accept, read]
      rfl
  | _, .tag lexeme children closed, frames, nodes, counted => by
      rename_i name attributes _ _ _
      have read := children.run (.tag nodes name attributes :: frames) [] counted
      rw [run_of_lexeme lexeme, accept, goOn, read, run_of_end closed.ends]
      simp only [close, closed.read, goOn, messageOf, List.append_nil, List.reverse_reverse]

theorem Pieces.run {input rest : List Char} {message : List Node} :
    ∀ {scope : Option String}, Pieces kinds scope input message rest →
      ∀ (frames : List Frame) (nodes : List Node), countedArgument kinds outer frames = scope →
        run kinds outer ⟨frames, nodes⟩ input =
          run kinds outer ⟨frames, message.reverse ++ nodes⟩ rest
  | _, .nil, _, _, _ => rfl
  | _, .cons first more, frames, nodes, counted => by
      rw [first.run frames nodes counted, more.run frames _ counted]
      simp only [List.reverse_cons, List.append_assoc, List.cons_append, List.nil_append]

theorem Branches.run {input rest : List Char} {entries : List (String × List Node)} :
    ∀ {scope : Option String}, Branches kinds scope input entries rest →
      ∀ (before : List Node) (argument kind : String) (earlier : List (String × List Node))
        (frames : List Frame),
        branchScope kinds (countedArgument kinds outer frames) argument kind = scope →
        earlier ≠ [] ∨ entries ≠ [] →
        (∀ key ∈ Keyed.keys entries, key ∉ Keyed.keys earlier) →
        (Keyed.keys entries).Nodup →
        goOn kinds outer (nextBranch before argument kind earlier frames input) =
          run kinds outer
            ⟨frames, .message argument kind (Keyed.insertAll earlier entries) :: before⟩ rest
  | _, .close blank, before, argument, kind, earlier, frames, _, nonempty, _, _ => by
      have used : Keyed.keys earlier ≠ [] := by
        simpa [Keyed.keys] using nonempty
      rw [nextBranch, readBranch_of_close blank used]
      rfl
  | _, .branch keyed message more, before, argument, kind, earlier, frames, counted, _, fresh,
      distinct => by
      rename_i key _ _ _ _ _
      -- the entry that is read joins the earlier ones, so the later keys must differ from it too
      have new := fresh key List.mem_cons_self
      have later := List.nodup_cons.mp distinct
      have read := message.run (.branch before argument kind earlier key :: frames) [] counted
      rw [nextBranch, readBranch_of_key keyed new]
      simp only [goOn]
      rw [read, run_of_end rfl]
      simp only [close, closeBranches]
      rw [more.run before argument kind _ frames counted]
      · simp only [messageOf, List.append_nil, List.reverse_reverse]
        rfl
      · exact Or.inl (Keyed.insert_ne_nil _ _ _)
      · intro other member present
        rcases Keyed.mem_keys_insert.mp present with rfl | present
        · exact later.1 member
        · exact fresh other (List.mem_cons_of_mem _ member) present
      · exact later.2

end

theorem readPattern_of_run {pattern : List Char} {nodes : List Node}
    (read : run kinds none ⟨[], []⟩ pattern = .ok (nodes, [])) :
    readPattern kinds pattern = .ok nodes := by
  simp only [readPattern, readMessage, read]

/-- A pattern is read as every message that it spells, so it spells at most one. -/
theorem parse_of_spells {pattern : String} {nodes : List Node}
    (spelled : Spells kinds pattern nodes) : parse kinds pattern = .ok nodes := by
  obtain ⟨pieces, written, joined⟩ := spelled
  have read : run kinds none ⟨[], []⟩ pattern.toList = .ok (nodes, []) := by
    rw [written.run [] [] rfl, run_of_end rfl]
    simp only [close, goOn, messageOf, List.append_nil, List.reverse_reverse, joined]
  rw [parse, readPattern_of_run read]
  rfl

end Parlance.Pattern
