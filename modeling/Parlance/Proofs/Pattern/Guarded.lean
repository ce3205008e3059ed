import Parlance.Proofs.Pattern.Continuations

namespace Parlance.Pattern

open Parlance.Text

/-! # Guarded texts

A text is guarded if every special character of its texts stands behind a backslash and every value
of an attribute between quotes. A guarded text spells its message whatever stands behind it, so the
grammar of guarded texts has no rests.
-/

/-- The attributes of a tag, with all values between quotes. -/
inductive GuardedAttributes : List Char → List (String × Option String) → Prop
  | nil : GuardedAttributes [] []
  | bare (blanks : IsRun isBlank before) (name : IsRun isTagChar written)
      (more : GuardedAttributes behind entries) :
      GuardedAttributes (before ++ (written ++ behind)) ((String.ofList written, none) :: entries)
  | quoted (blanks : IsRun isBlank before) (name : IsRun isTagChar written)
      (blankBefore : AllBlank left) (blankAfter : AllBlank right)
      (isQuote : isQuote quote = true) (inside : quote ∉ value)
      (more : GuardedAttributes behind entries) :
      GuardedAttributes
        (before ++ (written ++ (left ++ '=' :: (right ++ quote :: (value ++ quote :: behind)))))
        ((String.ofList written, some (String.ofList value)) :: entries)

/-- The smallest parts of a guarded text. What a brace opens is guarded as it is. -/
inductive GuardedLexeme (kinds : DirectiveKinds) : List Char → Token → Prop
  | run (run : IsRun isOrdinary text) : GuardedLexeme kinds text (.text (String.ofList text))
  | special (special : isSpecial c = true) :
      GuardedLexeme kinds ['\\', c] (.text (String.singleton c))
  | numberSign : GuardedLexeme kinds ['#'] .numberSign
  | braced (lexeme : Lexeme kinds ('{' :: text) token []) :
      GuardedLexeme kinds ('{' :: text) token
  | tag (letter : first.isAlpha = true) (name : ∀ c ∈ more, isTagChar c = true)
      (attributes : GuardedAttributes written entries) (blank : AllBlank blanks) :
      GuardedLexeme kinds ('<' :: first :: (more ++ (written ++ (blanks ++ ['>']))))
        (.tag (String.ofList (first :: more)) (Keyed.ofList entries))

mutual

/-- A guarded text that spells one node. A number sign in it is counted. -/
inductive GuardedPiece (kinds : DirectiveKinds) : Option String → List Char → Node → Prop
  | text (lexeme : GuardedLexeme kinds input (.text value)) :
      GuardedPiece kinds scope input (.text value)
  | count (lexeme : GuardedLexeme kinds input .numberSign) :
      GuardedPiece kinds (some name) input (.format name countKind none)
  | format (lexeme : GuardedLexeme kinds input (.argument name kind style)) :
      GuardedPiece kinds scope input (.format name kind style)
  | message (lexeme : GuardedLexeme kinds opening (.branching name kind))
      (branches : GuardedBranches kinds (branchScope kinds scope name kind) written entries)
      (nonempty : entries ≠ []) (distinct : (Keyed.keys entries).Nodup)
      (blank : AllBlank blanks) :
      GuardedPiece kinds scope (opening ++ (written ++ (blanks ++ ['}'])))
        (.message name kind (Keyed.ofList entries))
  | tag (lexeme : GuardedLexeme kinds opening (.tag name attributes))
      (children : GuardedPieces kinds scope inside nodes) (blank : AllBlank blanks) :
      GuardedPiece kinds scope
        (opening ++ (inside ++ '<' :: '/' :: (name.toList ++ (blanks ++ ['>']))))
        (.tag name attributes (Node.joinTexts nodes))

inductive GuardedPieces (kinds : DirectiveKinds) : Option String → List Char → List Node → Prop
  | nil : GuardedPieces kinds scope [] []
  | cons (first : GuardedPiece kinds scope input node)
      (more : GuardedPieces kinds scope behind nodes) :
      GuardedPieces kinds scope (input ++ behind) (node :: nodes)

/-- Branches as they are written one behind the other, with blanks around their keys. -/
inductive GuardedBranches (kinds : DirectiveKinds) :
    Option String → List Char → List (String × List Node) → Prop
  | nil : GuardedBranches kinds scope [] []
  | cons (keyed : Word isKeyChar written key []) (message : GuardedPieces kinds scope inside nodes)
      (more : GuardedBranches kinds scope behind entries) :
      GuardedBranches kinds scope (written ++ '{' :: (inside ++ '}' :: behind))
        ((key, Node.joinTexts nodes) :: entries)

end

/-- The guarded text spells the message where a number sign stands for `scope`. -/
def Guarded (kinds : DirectiveKinds) (scope : Option String) (text : List Char)
    (message : List Node) : Prop :=
  ∃ pieces, GuardedPieces kinds scope text pieces ∧ Node.joinTexts pieces = message

variable {kinds : DirectiveKinds} {outer : Option String}

theorem Word.append {isMember : Char → Bool} {written : List Char} {word : String}
    (named : Word isMember written word []) (rest : List Char) :
    Word isMember (written ++ rest) word rest := by
  obtain ⟨taken, rfl, refit⟩ := named.taken
  rw [List.append_nil]
  exact refit rest

theorem GuardedAttributes.attributes {written : List Char}
    {entries : List (String × Option String)} (guarded : GuardedAttributes written entries)
    (rest : List Char) : Attributes (written ++ rest) entries rest := by
  induction guarded with
  | nil => exact .nil
  | bare blanks name more ih =>
      simp only [List.append_assoc]
      exact .bare blanks name ih
  | quoted blanks name blankBefore blankAfter isQuote inside more ih =>
      simp only [List.append_assoc, List.cons_append]
      exact .valued blanks name blankBefore blankAfter (.quoted isQuote inside) ih

theorem GuardedLexeme.lexeme {text : List Char} {token : Token}
    (guarded : GuardedLexeme kinds text token) (rest : List Char) :
    Lexeme kinds (text ++ rest) token rest := by
  cases guarded with
  | run run => exact .run run
  | special special => exact .special special
  | numberSign => exact .numberSign
  | braced lexeme =>
      obtain ⟨taken, rfl, refit⟩ := lexeme.braced_taken
      rw [List.append_nil]
      exact refit rest
  | tag letter name attributes blank =>
      simp only [List.append_assoc, List.cons_append, List.nil_append]
      exact .tag letter name (attributes.attributes _) blank

mutual

theorem GuardedPiece.piece {text : List Char} {node : Node} :
    ∀ {scope : Option String}, GuardedPiece kinds scope text node → ∀ rest : List Char,
      Piece kinds scope (text ++ rest) node rest
  | _, .text lexeme, rest => .text (lexeme.lexeme rest)
  | _, .count lexeme, rest => .count (lexeme.lexeme rest)
  | _, .format lexeme, rest => .format (lexeme.lexeme rest)
  | _, .message lexeme branches nonempty distinct blank, rest => by
      simp only [List.append_assoc, List.cons_append, List.nil_append]
      exact .message (lexeme.lexeme _) (branches.branches blank rest) nonempty distinct
  | _, .tag lexeme children blank, rest => by
      simp only [List.append_assoc, List.cons_append, List.nil_append]
      exact .tag (lexeme.lexeme _) (children.pieces _) ⟨_, blank, rfl⟩

/-- A guarded text spells its message in front of any text. -/
theorem GuardedPieces.pieces {text : List Char} {nodes : List Node} :
    ∀ {scope : Option String}, GuardedPieces kinds scope text nodes → ∀ rest : List Char,
      Pieces kinds scope (text ++ rest) nodes rest
  | _, .nil, _ => .nil
  | _, .cons first more, rest => by
      rw [List.append_assoc]
      exact .cons (first.piece _) (more.pieces rest)

theorem GuardedBranches.branches {written blanks : List Char}
    {entries : List (String × List Node)} :
    ∀ {scope : Option String}, GuardedBranches kinds scope written entries →
      AllBlank blanks → ∀ rest : List Char,
        Branches kinds scope (written ++ (blanks ++ '}' :: rest)) entries rest
  | _, .nil, blank, _ => .close blank
  | _, .cons keyed message more, blank, rest => by
      simp only [List.append_assoc, List.cons_append]
      exact .branch (keyed.append _) (message.pieces _) (more.branches blank rest)

end

/-- The reader goes through guarded branches, whatever stands behind them. -/
theorem GuardedBranches.run {scope : Option String} {written : List Char}
    {entries : List (String × List Node)} (guarded : GuardedBranches kinds scope written entries)
    (before : List Node) (argument kind : String) (earlier : List (String × List Node))
    (frames : List Frame) (rest : List Char)
    (counted : branchScope kinds (countedArgument kinds outer frames) argument kind = scope)
    (fresh : ∀ key ∈ Keyed.keys entries, key ∉ Keyed.keys earlier)
    (distinct : (Keyed.keys entries).Nodup) :
    goOn kinds outer (nextBranch before argument kind earlier frames (written ++ rest)) =
      goOn kinds outer
        (nextBranch before argument kind (Keyed.insertAll earlier entries) frames rest) := by
  induction entries generalizing written earlier with
  | nil =>
      cases guarded
      rfl
  | cons entry entries ih =>
      cases guarded with
      | cons keyed message more =>
          rename_i key _ nodes behind
          have new := fresh key List.mem_cons_self
          have later := List.nodup_cons.mp distinct
          have read := (message.pieces ('}' :: (behind ++ rest))).run
            (.branch before argument kind earlier key :: frames) [] counted
          simp only [List.append_assoc, List.cons_append]
          rw [nextBranch_of_key (keyed.append _) new, goOn, read, run_of_end rfl]
          simp only [close, closeBranches, messageOf, List.append_nil, List.reverse_reverse]
          refine ih more _ (fun other member => ?_) later.2
          rw [Keyed.mem_keys_insert, not_or]
          constructor
          · rintro rfl
            exact later.1 member
          · exact fresh other (List.mem_cons_of_mem _ member)

theorem GuardedPieces.append {scope : Option String} {text more : List Char}
    {nodes later : List Node} :
    GuardedPieces kinds scope text nodes → GuardedPieces kinds scope more later →
      GuardedPieces kinds scope (text ++ more) (nodes ++ later)
  | .nil, second => second
  | .cons first rest, second => by
      rw [List.append_assoc]
      exact .cons first (rest.append second)

theorem GuardedPiece.guarded {scope : Option String} {text : List Char} {node : Node}
    (piece : GuardedPiece kinds scope text node) : Guarded kinds scope text [node] := by
  have pieces := GuardedPieces.cons piece .nil
  rw [List.append_nil] at pieces
  exact ⟨[node], pieces, by cases node <;> rfl⟩

theorem Guarded.spells {text : List Char} {message : List Node}
    (guarded : Guarded kinds none text message) :
    Spells kinds (String.ofList text) message := by
  obtain ⟨pieces, written, joined⟩ := guarded
  refine ⟨pieces, ?_, joined⟩
  have whole := written.pieces []
  rwa [List.append_nil, ← @String.toList_ofList text] at whole

end Parlance.Pattern
