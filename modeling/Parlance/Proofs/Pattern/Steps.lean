import Parlance.Proofs.Pattern.Completeness
import Parlance.Proofs.Pattern.Origins

namespace Parlance.Pattern

open Parlance.Text

/-! # Steps of the reader

What a step of the reader can do, in the terms of the grammar: it reads a lexeme, or it closes what
is open and maybe opens the next branch. Whatever a step does, what is left is an end of the input.
-/

/-- The reader goes on with `next` and `rest`. A run of text may be read in parts. -/
inductive Moves (kinds : DirectiveKinds) (outer : Option String) :
    Reading → List Char → Reading → List Char → Prop
  | text (lexeme : Lexeme kinds input (.text value) rest) :
      Moves kinds outer ⟨frames, nodes⟩ input ⟨frames, .text value :: nodes⟩ rest
  | numberSign (lexeme : Lexeme kinds input .numberSign rest) :
      Moves kinds outer ⟨frames, nodes⟩ input
        ⟨frames, numberSignNode (countedArgument kinds outer frames) :: nodes⟩ rest
  | argument (lexeme : Lexeme kinds input (.argument name kind style) rest) :
      Moves kinds outer ⟨frames, nodes⟩ input ⟨frames, .format name kind style :: nodes⟩ rest
  | openDirective (lexeme : Lexeme kinds input (.branching name kind) behind)
      (keyed : Word isKeyChar behind key ('{' :: rest)) :
      Moves kinds outer ⟨frames, nodes⟩ input ⟨.branch nodes name kind [] key :: frames, []⟩ rest
  | nextBranch (keyed : Word isKeyChar input key ('{' :: rest))
      (fresh : key ∉ Keyed.keys (Keyed.insert branches last (messageOf nodes))) :
      Moves kinds outer ⟨.branch before argument kind branches last :: frames, nodes⟩
        ('}' :: input)
        ⟨.branch before argument kind (Keyed.insert branches last (messageOf nodes)) key ::
          frames, []⟩ rest
  | closeDirective (blank : AllBlank blanks) :
      Moves kinds outer ⟨.branch before argument kind branches last :: frames, nodes⟩
        ('}' :: (blanks ++ '}' :: rest))
        ⟨frames, .message argument kind (Keyed.insert branches last (messageOf nodes)) ::
          before⟩ rest
  | openTag (lexeme : Lexeme kinds input (.tag name attributes) rest) :
      Moves kinds outer ⟨frames, nodes⟩ input ⟨.tag nodes name attributes :: frames, []⟩ rest
  | closeTag (closing : ClosingTag input name rest) :
      Moves kinds outer ⟨.tag before name attributes :: frames, nodes⟩ input
        ⟨frames, .tag name attributes (messageOf nodes) :: before⟩ rest

variable {kinds : DirectiveKinds} {outer : Option String} {reading next : Reading}
  {input rest : List Char}

theorem moves_of_accept {token : Token} {behind : List Char}
    (lexeme : Lexeme kinds input token behind)
    (found : accept kinds outer reading token behind = .ok (.continued next rest)) :
    Moves kinds outer reading input next rest := by
  unfold accept at found
  split at found
  · cases found
    exact .text lexeme
  · cases found
    exact .numberSign lexeme
  · cases found
    exact .argument lexeme
  · unfold nextBranch at found
    split at found
    · contradiction
    · rename_i read
      cases found
      exact .openDirective lexeme (key_of_readBranch read).2
    · rename_i read
      exact absurd rfl (close_of_readBranch read).1
  · cases found
    exact .openTag lexeme

theorem moves_of_close (found : close reading input = .ok (.continued next rest)) :
    Moves kinds outer reading input next rest := by
  obtain ⟨frames, nodes⟩ := reading
  unfold close at found
  split at found
  · cases found
  · rename_i opened
    cases opened
    split at found
    · contradiction
    rename_i behind closed
    rw [closeBranches_eq_ok closed]
    unfold nextBranch at found
    split at found
    · contradiction
    · rename_i read
      cases found
      obtain ⟨fresh, keyed⟩ := key_of_readBranch read
      exact .nextBranch keyed fresh
    · rename_i read
      cases found
      obtain ⟨_, blanks, blank, rfl⟩ := close_of_readBranch read
      exact .closeDirective blank
  · rename_i opened
    cases opened
    split at found
    · contradiction
    · rename_i closing
      cases found
      exact .closeTag (closingTag_of_read closing)

theorem moves_of_step (found : step kinds outer reading input = .ok (.continued next rest)) :
    Moves kinds outer reading input next rest := by
  unfold step at found
  split at found
  · contradiction
  · exact moves_of_close found
  · rename_i read
    exact moves_of_accept (lexeme_of_readToken read) found

section Branches

variable {before : List Node} {argument kind key : String} {frames : List Frame}
  {branches : List (String × List Node)}

theorem nextBranch_of_key (keyed : Word isKeyChar input key ('{' :: rest))
    (fresh : key ∉ Keyed.keys branches) :
    nextBranch before argument kind branches frames input =
      .ok (.continued ⟨.branch before argument kind branches key :: frames, []⟩ rest) := by
  rw [nextBranch, readBranch_of_key keyed fresh]

theorem nextBranch_of_close {blanks : List Char} (blank : AllBlank blanks)
    (nonempty : branches ≠ []) :
    nextBranch before argument kind branches frames (blanks ++ '}' :: rest) =
      .ok (.continued ⟨frames, .message argument kind branches :: before⟩ rest) := by
  have used : Keyed.keys branches ≠ [] := by
    simpa [Keyed.keys] using nonempty
  rw [nextBranch, readBranch_of_close blank used]

end Branches

namespace Moves

/-- The steps of the grammar are those of the reader. -/
theorem run (moves : Moves kinds outer reading input next rest) :
    run kinds outer reading input = Pattern.run kinds outer next rest := by
  cases moves with
  | text lexeme => exact run_of_lexeme lexeme _ _
  | numberSign lexeme => exact run_of_lexeme lexeme _ _
  | argument lexeme => exact run_of_lexeme lexeme _ _
  | openDirective lexeme keyed =>
      rw [run_of_lexeme lexeme, accept, nextBranch_of_key keyed List.not_mem_nil]
      rfl
  | nextBranch keyed fresh =>
      rw [run_of_end rfl]
      simp only [close, closeBranches, nextBranch_of_key keyed fresh]
      rfl
  | closeDirective blank =>
      rw [run_of_end rfl]
      simp only [close, closeBranches, nextBranch_of_close blank (Keyed.insert_ne_nil _ _ _)]
      rfl
  | openTag lexeme => exact run_of_lexeme lexeme _ _
  | closeTag closing =>
      rw [run_of_end closing.ends]
      simp only [close, closing.read, goOn]

theorem suffix (moves : Moves kinds outer reading input next rest) : rest <:+ input := by
  cases moves with
  | text lexeme => exact lexeme.suffix
  | numberSign lexeme => exact lexeme.suffix
  | argument lexeme => exact lexeme.suffix
  | openDirective lexeme keyed =>
      exact ((List.suffix_cons _ _).trans keyed.suffix).trans lexeme.suffix
  | nextBranch keyed => exact suffix_cons_of_suffix ((List.suffix_cons _ _).trans keyed.suffix)
  | closeDirective =>
      exact suffix_cons_of_suffix (suffix_append_of_suffix (List.suffix_cons _ _))
  | openTag lexeme => exact lexeme.suffix
  | closeTag closing => exact closing.suffix

end Moves

end Parlance.Pattern
