import Mathlib.Control.Monad.Basic
import Parlance.Proofs.Pattern.Endings
import Parlance.Proofs.Pattern.Joining

namespace Parlance.Pattern

/-! # Every pattern that is read is spelled

A reading that comes to an end has read a message of the grammar in its innermost frame. It
goes on from the end of that message with the nodes of the message in front of it.
-/

variable {kinds : DirectiveKinds} {outer : Option String} {result : List Node × List Char}

/-- From here the reader reads pieces of the grammar, and then stands where a message ends. -/
def ReadsPieces (kinds : DirectiveKinds) (outer : Option String) (frames : List Frame)
    (nodes : List Node) (input : List Char) (result : List Node × List Char) : Prop :=
  ∃ pieces ending, Pieces kinds (countedArgument kinds outer frames) input pieces ending ∧
    ending.length ≤ input.length ∧
    goOn kinds outer (close ⟨frames, pieces.reverse ++ nodes⟩ ending) = .ok result

theorem ReadsPieces.cons {frames : List Frame} {nodes : List Node} {input behind : List Char}
    {node : Node} (piece : Piece kinds (countedArgument kinds outer frames) input node behind)
    (shorter : behind.length ≤ input.length)
    (more : ReadsPieces kinds outer frames (node :: nodes) behind result) :
    ReadsPieces kinds outer frames nodes input result := by
  obtain ⟨pieces, ending, written, length, closed⟩ := more
  refine ⟨node :: pieces, ending, .cons piece written, Nat.le_trans length shorter, ?_⟩
  simpa only [List.reverse_cons, List.append_assoc, List.cons_append, List.nil_append] using closed

/-- From here the reader reads the branches of a directive that has earlier branches, and then
stands behind the directive. -/
def ReadsBranches (kinds : DirectiveKinds) (outer : Option String) (before : List Node)
    (argument kind : String) (earlier : List (String × List Node)) (frames : List Frame)
    (input : List Char) (result : List Node × List Char) : Prop :=
  ∃ entries rest,
    Branches kinds (branchScope kinds (countedArgument kinds outer frames) argument kind) input
      entries rest ∧
    rest.length < input.length ∧
    (earlier ≠ [] ∨ entries ≠ []) ∧
    (∀ key ∈ Keyed.keys entries, key ∉ Keyed.keys earlier) ∧
    (Keyed.keys entries).Nodup ∧
    run kinds outer
      ⟨frames, .message argument kind (Keyed.insertAll earlier entries) :: before⟩ rest =
        .ok result

section Branches

variable {before : List Node} {argument kind key : String} {frames : List Frame}
  {earlier : List (String × List Node)} {input body behind : List Char} {pieces : List Node}

theorem ReadsBranches.branch (fresh : key ∉ Keyed.keys earlier)
    (keyed : Word isKeyChar input key ('{' :: body))
    (message : Pieces kinds (branchScope kinds (countedArgument kinds outer frames) argument kind)
      body pieces ('}' :: behind))
    (shorter : behind.length < input.length)
    (more : ReadsBranches kinds outer before argument kind
      (Keyed.insert earlier key (Node.joinTexts pieces)) frames behind result) :
    ReadsBranches kinds outer before argument kind earlier frames input result := by
  obtain ⟨entries, rest, written, length, _, new, distinct, read⟩ := more
  refine ⟨(key, Node.joinTexts pieces) :: entries, rest, .branch keyed message written,
    Nat.lt_trans length shorter, Or.inr (List.cons_ne_nil _ _), ?_, ?_, read⟩
  · intro other member present
    rcases List.mem_cons.mp member with rfl | later
    · exact fresh present
    · exact new other later (Keyed.mem_keys_insert.mpr (Or.inr present))
  · refine List.nodup_cons.mpr ⟨fun later => ?_, distinct⟩
    exact new key later (Keyed.mem_keys_insert.mpr (Or.inl rfl))

/-- The branches are spelled if every message in them is. -/
theorem readsBranches_of_nextBranch {earlier : List (String × List Node)} {input : List Char}
    (messages : ∀ (frames : List Frame) (shorter : List Char),
      shorter.length < input.length → run kinds outer ⟨frames, []⟩ shorter = .ok result →
        ReadsPieces kinds outer frames [] shorter result)
    (read : goOn kinds outer (nextBranch before argument kind earlier frames input) = .ok result) :
    ReadsBranches kinds outer before argument kind earlier frames input result := by
  unfold nextBranch at read
  split at read
  · contradiction
  · rename_i key body found
    obtain ⟨fresh, keyed⟩ := key_of_readBranch found
    have opened := readBranch_length_lt found
    obtain ⟨pieces, ending, message, length, closed⟩ := messages _ body opened read
    unfold close at closed
    simp only at closed
    split at closed
    · contradiction
    rename_i behind brace
    have shorter : behind.length < input.length := by
      have ended := closeBranches_length_lt brace
      omega
    rw [closeBranches_eq_ok brace] at message
    rw [messageOf, List.append_nil, List.reverse_reverse] at closed
    refine .branch fresh keyed message shorter (readsBranches_of_nextBranch ?_ closed)
    exact fun frames input smaller => messages frames input (Nat.lt_trans smaller shorter)
  · rename_i rest found
    obtain ⟨used, blanks, blank, rfl⟩ := close_of_readBranch found
    have nonempty : earlier ≠ [] := fun empty => used (congrArg Keyed.keys empty)
    refine ⟨[], rest, .close blank, readBranch_length_lt found, Or.inl nonempty, ?_,
      List.nodup_nil, read⟩
    exact fun key member => absurd member List.not_mem_nil
termination_by input.length

end Branches

theorem ReadsPieces.numberSign {frames : List Frame} {nodes : List Node}
    {input behind : List Char} (lexeme : Lexeme kinds input .numberSign behind)
    (shorter : behind.length ≤ input.length)
    (more : ReadsPieces kinds outer frames
      (numberSignNode (countedArgument kinds outer frames) :: nodes) behind result) :
    ReadsPieces kinds outer frames nodes input result := by
  have piece : Piece kinds (countedArgument kinds outer frames) input
      (numberSignNode (countedArgument kinds outer frames)) behind := by
    cases countedArgument kinds outer frames with
    | none => exact .literalSign lexeme
    | some name => exact .count lexeme
  exact .cons piece shorter more

/-- A tag is spelled if the message in it is. -/
theorem ReadsPieces.closeTag {frames : List Frame} {nodes : List Node} {input body : List Char}
    {name : String} {attributes : List (String × Option String)}
    (lexeme : Lexeme kinds input (.tag name attributes) body)
    (shorter : body.length < input.length)
    (children : ReadsPieces kinds outer (.tag nodes name attributes :: frames) [] body result)
    (messages : ∀ (node : Node) (behind : List Char), behind.length < input.length →
      run kinds outer ⟨frames, node :: nodes⟩ behind = .ok result →
        ReadsPieces kinds outer frames (node :: nodes) behind result) :
    ReadsPieces kinds outer frames nodes input result := by
  obtain ⟨pieces, ending, message, length, closed⟩ := children
  unfold close at closed
  simp only at closed
  split at closed
  · contradiction
  rename_i behind closing
  have ended := readClosingTag_length_lt closing
  have smaller : behind.length < input.length := by omega
  rw [messageOf, List.append_nil, List.reverse_reverse] at closed
  exact .cons (.tag lexeme message (closingTag_of_read closing)) (Nat.le_of_lt smaller)
    (messages _ behind smaller closed)

/-- A reading that succeeds reads pieces of the grammar up to the end of the message. -/
theorem readsPieces_of_run {frames : List Frame} {nodes : List Node} {input : List Char}
    (read : run kinds outer ⟨frames, nodes⟩ input = .ok result) :
    ReadsPieces kinds outer frames nodes input result := by
  -- by induction on the length of the input, which every token and every whole directive shortens
  cases found : readToken kinds input with
  | error failure =>
      rw [run_eq_goOn, step, found] at read
      contradiction
  | ok ahead =>
      cases ahead with
      | none =>
          rw [run_eq_goOn, step, found] at read
          exact ⟨[], input, .nil, Nat.le_refl _, read⟩
      | some ahead =>
          obtain ⟨token, behind⟩ := ahead
          have lexeme := lexeme_of_readToken found
          have shorter := readToken_length_lt found
          rw [run_of_token found] at read
          cases token with
          | text value =>
              exact .cons (.text lexeme) (Nat.le_of_lt shorter) (readsPieces_of_run read)
          | numberSign => exact .numberSign lexeme (Nat.le_of_lt shorter) (readsPieces_of_run read)
          | argument name kind style =>
              exact .cons (.format lexeme) (Nat.le_of_lt shorter) (readsPieces_of_run read)
          | branching name kind =>
              obtain ⟨entries, rest, branches, length, nonempty, _, distinct, read⟩ :=
                readsBranches_of_nextBranch
                  (fun frames body smaller read => readsPieces_of_run read) read
              have written : entries ≠ [] := nonempty.resolve_left (· rfl)
              exact .cons (.message lexeme branches written distinct) (by omega)
                (readsPieces_of_run read)
          | tag name attributes =>
              exact .closeTag lexeme shorter (readsPieces_of_run read)
                (fun node rest smaller read => readsPieces_of_run read)
termination_by input.length

/-- A reading that gets to the end of the pattern has read pieces of the grammar all the way. -/
theorem exists_pieces_of_run {nodes message : List Node} {input : List Char}
    (read : run kinds outer ⟨[], nodes⟩ input = .ok (message, [])) :
    ∃ pieces, Pieces kinds outer input pieces [] ∧ messageOf (pieces.reverse ++ nodes) = message := by
  obtain ⟨pieces, ending, written, _, closed⟩ := readsPieces_of_run read
  rw [close, goOn] at closed
  cases closed
  exact ⟨pieces, written, rfl⟩

theorem run_of_parse {pattern : String} {nodes : List Node}
    (read : parse kinds pattern = .ok nodes) :
    run kinds none ⟨[], []⟩ pattern.toList = .ok (nodes, []) := by
  unfold parse readPattern at read
  split at read
  · contradiction
  · rename_i found
    cases read
    exact found
  · contradiction

/-- A pattern that is read spells the message that is read. -/
theorem spells_of_parse {pattern : String} {nodes : List Node}
    (read : parse kinds pattern = .ok nodes) : Spells kinds pattern nodes := by
  obtain ⟨pieces, written, whole⟩ := exists_pieces_of_run (run_of_parse read)
  rw [messageOf, List.append_nil, List.reverse_reverse] at whole
  exact ⟨pieces, written, whole⟩

theorem spells_nested :
    Spells ⟨(· == "plural"), (· == "plural")⟩
      "<\x7bn, plural, one \x7b<b x=1 x = '2'>#\x7bn\x7d</b >\\\x7d\x7d other\x7b \\#<\x7d\x7d"
      [.text "<", .message "n" "plural" [
        ("one", [.tag "b" [("x", some "2")] [.format "n" "count" none, .format "n" "value" none],
          .text "\x7d"]),
        ("other", [.text " #<"])]] :=
  spells_of_parse (by decide +kernel)

end Parlance.Pattern
