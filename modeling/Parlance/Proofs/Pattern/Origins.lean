import Parlance.Proofs.Pattern.Constructs
import Parlance.Proofs.Pattern.Soundness

namespace Parlance.Pattern

open Parlance.Text

/-! # Where constructs are written

What is left behind a piece of a pattern is an end of the pattern. So every directive and every tag
of a message that is read is written at some place of the pattern, and a number sign stands for
a directive that is written around it.
-/

variable {kinds : DirectiveKinds} {input rest : List Char}

section Suffixes

theorem suffix_append_of_suffix {text more : List Char} (ends : rest <:+ more) :
    rest <:+ text ++ more :=
  ends.trans (List.suffix_append text more)

theorem suffix_cons_of_suffix {c : Char} {more : List Char} (ends : rest <:+ more) :
    rest <:+ c :: more :=
  ends.trans (List.suffix_cons c more)

theorem Word.suffix {isMember : Char → Bool} {word : String}
    (named : Word isMember input word rest) : rest <:+ input := by
  obtain ⟨before, name, after, _, _, _, rfl, _⟩ := named
  exact suffix_append_of_suffix (suffix_append_of_suffix (List.suffix_append after rest))

theorem StyleText.suffix {style : Option String} (written : StyleText input style rest) :
    rest <:+ input := by
  cases written with
  | absent => exact List.suffix_refl _
  | blank => exact suffix_cons_of_suffix (List.suffix_append _ _)
  | text =>
      apply suffix_cons_of_suffix
      exact suffix_append_of_suffix (suffix_append_of_suffix (List.suffix_append _ _))

theorem AttributeValue.suffix {text : String} (value : AttributeValue input text rest) :
    rest <:+ input := by
  cases value with
  | quoted =>
      exact suffix_cons_of_suffix (suffix_append_of_suffix (List.suffix_cons _ _))
  | unquoted => exact List.suffix_append _ _

theorem Attributes.suffix {entries : List (String × Option String)}
    (attributes : Attributes input entries rest) : rest <:+ input := by
  induction attributes with
  | nil => exact List.suffix_refl _
  | bare _ _ _ ih => exact suffix_append_of_suffix (suffix_append_of_suffix ih)
  | valued _ _ _ _ value _ ih =>
      have behind := ih.trans value.suffix
      refine suffix_append_of_suffix (suffix_append_of_suffix (suffix_append_of_suffix ?_))
      exact suffix_cons_of_suffix (suffix_append_of_suffix behind)

theorem ClosingTag.suffix {name : String} (closing : ClosingTag input name rest) :
    rest <:+ input := by
  obtain ⟨blanks, _, rfl⟩ := closing
  apply suffix_cons_of_suffix
  apply suffix_cons_of_suffix
  exact suffix_append_of_suffix (suffix_append_of_suffix (List.suffix_cons _ _))

/-- What is left behind a lexeme is an end of the text that begins with it. -/
theorem Lexeme.suffix {token : Token} (lexeme : Lexeme kinds input token rest) :
    rest <:+ input := by
  cases lexeme with
  | run => exact List.suffix_append _ _
  | special => exact suffix_cons_of_suffix (List.suffix_cons _ _)
  | verbatim => exact suffix_cons_of_suffix (List.suffix_cons _ _)
  | lastBackslash => exact List.suffix_cons _ _
  | angle => exact List.suffix_cons _ _
  | numberSign => exact List.suffix_cons _ _
  | value named => exact suffix_cons_of_suffix ((List.suffix_cons _ _).trans named.suffix)
  | format named typed _ style =>
      have styled := ((List.suffix_cons _ _).trans style.suffix).trans typed.suffix
      exact suffix_cons_of_suffix ((suffix_cons_of_suffix styled).trans named.suffix)
  | branching named typed =>
      have opened := (List.suffix_cons _ _).trans typed.suffix
      exact suffix_cons_of_suffix ((suffix_cons_of_suffix opened).trans named.suffix)
  | tag _ _ attributes =>
      have closed := (suffix_append_of_suffix (List.suffix_cons _ rest)).trans attributes.suffix
      exact suffix_cons_of_suffix (suffix_cons_of_suffix (suffix_append_of_suffix closed))

mutual

theorem Piece.suffix {node : Node} {scope : Option String} {input rest : List Char} :
    Piece kinds scope input node rest → rest <:+ input
  | .text lexeme => lexeme.suffix
  | .literalSign lexeme => lexeme.suffix
  | .count lexeme => lexeme.suffix
  | .format lexeme => lexeme.suffix
  | .message lexeme branches _ _ => branches.suffix.trans lexeme.suffix
  | .tag lexeme children closed =>
    (closed.suffix.trans children.suffix).trans lexeme.suffix

theorem Pieces.suffix {nodes : List Node} {scope : Option String} {input rest : List Char} :
    Pieces kinds scope input nodes rest → rest <:+ input
  | .nil => List.suffix_refl _
  | .cons first more => more.suffix.trans first.suffix

theorem Branches.suffix {entries : List (String × List Node)} {scope : Option String}
    {input rest : List Char} : Branches kinds scope input entries rest → rest <:+ input
  | .close _ => suffix_append_of_suffix (List.suffix_cons _ _)
  | .branch keyed message more =>
    (suffix_cons_of_suffix ((suffix_cons_of_suffix more.suffix).trans message.suffix)).trans
      keyed.suffix

end

end Suffixes

/-- A lexeme of the token stands at some place of the pattern. -/
def Stands (kinds : DirectiveKinds) (pattern : List Char) (token : Token) : Prop :=
  ∃ input rest, input <:+ pattern ∧ Lexeme kinds input token rest

/-- The token that a directive or a tag is written with. A number sign is not written with the
argument that it stands for: that is written with the directive around it. -/
inductive Writes (kinds : DirectiveKinds) : Token → Node → Prop
  | format : Writes kinds (.argument name kind style) (.format name kind style)
  | count (counting : kinds.isCounting kind = true) :
      Writes kinds (.branching name kind) (.format name countKind none)
  | message : Writes kinds (.branching name kind) (.message name kind branches)
  | tag : Writes kinds (.tag name attributes) (.tag name attributes children)

/-- The construct is written somewhere in the pattern. -/
def IsWritten (kinds : DirectiveKinds) (pattern : List Char) (node : Node) : Prop :=
  ∃ token, Stands kinds pattern token ∧ Writes kinds token node

/-- The argument that a number sign stands for is that of a counting directive in the pattern. -/
def ScopeStands (kinds : DirectiveKinds) (pattern : List Char) (scope : Option String) : Prop :=
  ∀ name, scope = some name →
    ∃ kind, kinds.isCounting kind = true ∧ Stands kinds pattern (.branching name kind)

section Origins

variable {pattern : List Char} {scope : Option String}

theorem ScopeStands.branchScope {name kind : String} (around : ScopeStands kinds pattern scope)
    (stands : Stands kinds pattern (.branching name kind)) :
    ScopeStands kinds pattern (branchScope kinds scope name kind) := by
  intro counted same
  unfold Pattern.branchScope at same
  split at same
  · rename_i counting
    cases same
    exact ⟨kind, counting, stands⟩
  · exact around counted same

mutual

theorem Piece.isWritten {node : Node} {input rest : List Char} :
    ∀ {scope : Option String}, Piece kinds scope input node rest → input <:+ pattern →
      ScopeStands kinds pattern scope → ∀ found ∈ node.constructsOf, IsWritten kinds pattern found
  | _, .text _, _, _ => by simp [Node.constructsOf]
  | _, .literalSign _, _, _ => by simp [Node.constructsOf]
  | some name, .count _, _, around => by
      obtain ⟨kind, counting, stands⟩ := around name rfl
      simpa [Node.constructsOf] using ⟨_, stands, .count counting⟩
  | _, .format lexeme, inside, _ => by
      simpa [Node.constructsOf] using ⟨_, ⟨_, _, inside, lexeme⟩, .format⟩
  | _, .message lexeme branches _ _, inside, around => by
      have stands : Stands kinds pattern _ := ⟨_, _, inside, lexeme⟩
      intro found member
      rw [Node.constructsOf] at member
      rcases List.mem_cons.mp member with rfl | member
      · exact ⟨_, stands, .message⟩
      · exact branches.isWritten (lexeme.suffix.trans inside) (around.branchScope stands) found
          (Node.mem_constructsOfBranches_of_ofList member)
  | _, .tag lexeme children _, inside, around => by
      intro found member
      rw [Node.constructsOf, Node.constructs_joinTexts] at member
      rcases List.mem_cons.mp member with rfl | member
      · exact ⟨_, ⟨_, _, inside, lexeme⟩, .tag⟩
      · exact children.isWritten (lexeme.suffix.trans inside) around found member

theorem Pieces.isWritten {nodes : List Node} {input rest : List Char} :
    ∀ {scope : Option String}, Pieces kinds scope input nodes rest → input <:+ pattern →
      ScopeStands kinds pattern scope →
        ∀ found ∈ Node.constructs nodes, IsWritten kinds pattern found
  | _, .nil, _, _ => by simp [Node.constructs]
  | _, .cons first more, inside, around => by
      intro found member
      rcases Node.mem_constructs_cons.mp member with here | later
      · exact first.isWritten inside around found here
      · exact more.isWritten (first.suffix.trans inside) around found later

theorem Branches.isWritten {entries : List (String × List Node)} {input rest : List Char} :
    ∀ {scope : Option String}, Branches kinds scope input entries rest → input <:+ pattern →
      ScopeStands kinds pattern scope →
        ∀ found ∈ Node.constructsOfBranches entries, IsWritten kinds pattern found
  | _, .close _, _, _ => by simp [Node.constructsOfBranches]
  | _, .branch keyed message more, inside, around => by
      have body := ((List.suffix_cons _ _).trans keyed.suffix).trans inside
      intro found member
      rw [Node.constructsOfBranches, Node.constructs_joinTexts] at member
      rcases List.mem_append.mp member with here | later
      · exact message.isWritten body around found here
      · have behind := ((List.suffix_cons _ _).trans message.suffix).trans body
        exact more.isWritten behind around found later

end

/-- Every directive and every tag of a message that is read is written in the pattern. -/
theorem isWritten_of_parse {pattern : String} {nodes : List Node} {node : Node}
    (read : parse kinds pattern = .ok nodes) (member : node ∈ Node.constructs nodes) :
    IsWritten kinds pattern.toList node := by
  obtain ⟨pieces, written, rfl⟩ := exists_pieces_of_run (run_of_parse read)
  rw [messageOf, List.append_nil, List.reverse_reverse, Node.constructs_joinTexts] at member
  exact written.isWritten (List.suffix_refl _) (fun name none => nomatch none) node member

end Origins

end Parlance.Pattern
