import Parlance.Keyed
import Parlance.Pattern.Attribute
import Parlance.Pattern.Node

namespace Parlance.Pattern

open Parlance.Text

/-! # Tokens of a pattern

A token is a piece of text, a number sign, a whole directive without branches, the opening
of a directive with branches, or an opening tag. Which directives have branches is told by
their kinds. Every token shortens the input.
-/

/-- What is known of the kinds of directives while a pattern is read. -/
structure DirectiveKinds where
  /-- Directives of the kind have branches. -/
  isBranching : String → Bool
  /-- The number sign in the branches stands for the argument of the directive. -/
  isCounting : String → Bool

inductive Token where
  | text (value : String)
  | numberSign
  | argument (name kind : String) (style : Option String)
  | branching (name kind : String)
  | tag (name : String) (attributes : List (String × Option String))
deriving Repr, DecidableEq

/-- A style is trimmed, and a blank style is none. -/
def styleOf (raw : List Char) : Option String :=
  let trimmed := trimList raw
  if trimmed.isEmpty then none else some (String.ofList trimmed)

def closeStyle (name kind : String) (style : Option String) :
    List Char → Except Failure (Token × List Char)
  | '}' :: rest => .ok (.argument name kind style, rest)
  | rest => fail .styleEnd rest

def readStyle (name kind : String) : List Char → Except Failure (Token × List Char)
  | ',' :: rest =>
    closeStyle name kind (styleOf (rest.takeWhile (!isBrace ·))) (rest.dropWhile (!isBrace ·))
  | rest => closeStyle name kind none rest

def openBranches (name kind : String) : List Char → Except Failure (Token × List Char)
  | ',' :: rest => .ok (.branching name kind, rest)
  | rest => fail .selectorsExpected rest

def readKind (kinds : DirectiveKinds) (name : String) (input : List Char) :
    Except Failure (Token × List Char) :=
  match readRun? isNameChar input with
  | none => fail .argumentType input
  | some (kind, rest) =>
    if kinds.isBranching kind then openBranches name kind (skipBlank rest)
    else readStyle name kind (skipBlank rest)

def readDirectiveBody (kinds : DirectiveKinds) (name : String) :
    List Char → Except Failure (Token × List Char)
  | '}' :: rest => .ok (.argument name valueKind none, rest)
  | ',' :: rest => readKind kinds name (skipBlank rest)
  | rest => fail .afterArgument rest

def readDirective (kinds : DirectiveKinds) (input : List Char) :
    Except Failure (Token × List Char) :=
  match readRun? isNameChar (skipBlank input) with
  | none => fail .argumentName (skipBlank input)
  | some (name, rest) => readDirectiveBody kinds name (skipBlank rest)

def closeTag (name : String) (attributes : List (String × Option String)) :
    List Char → Except Failure (Token × List Char)
  | '>' :: rest => .ok (.tag name (Keyed.ofList attributes), rest)
  | rest => fail .tagEnd rest

/-- An opening tag from its name on. Of two attributes with one name the later stays. -/
def readTag (input : List Char) : Except Failure (Token × List Char) :=
  match readAttributes (input.dropWhile isTagChar) with
  | .error failure => .error failure
  | .ok (attributes, rest) =>
    closeTag (String.ofList (input.takeWhile isTagChar)) attributes (skipBlank rest)

def escapedText (c : Char) : String :=
  if isSpecial c then String.singleton c else String.ofList ['\\', c]

/-- The token behind a backslash. The last backslash of a pattern is text. -/
def readEscape : List Char → Token × List Char
  | [] => (.text "\\", [])
  | c :: rest => (.text (escapedText c), rest)

/-- The token behind an opening angle bracket, or nothing before the slash of a closing tag. -/
def readAngle : List Char → Except Failure (Option (Token × List Char))
  | [] => .ok (some (.text "<", []))
  | c :: rest =>
    if c.isAlpha then (readTag (c :: rest)).map some
    else if c = '/' then .ok none
    else .ok (some (.text "<", c :: rest))

/-- The first token. There is none at the end, before a closing brace and before a closing
tag. -/
def readToken (kinds : DirectiveKinds) :
    List Char → Except Failure (Option (Token × List Char))
  | [] => .ok none
  | c :: rest =>
    if c = '\\' then .ok (some (readEscape rest))
    else if c = '#' then .ok (some (.numberSign, rest))
    else if c = '{' then (readDirective kinds rest).map some
    else if c = '<' then readAngle rest
    else if c = '}' then .ok none
    else .ok (some (.text (String.ofList (c :: rest.takeWhile isOrdinary)),
      rest.dropWhile isOrdinary))

theorem closeStyle_length_lt {name kind : String} {style : Option String}
    {input rest : List Char} {token : Token}
    (found : closeStyle name kind style input = .ok (token, rest)) :
    rest.length < input.length := by
  unfold closeStyle at found
  split at found
  · cases found
    exact Nat.lt_succ_self _
  · contradiction

theorem readStyle_length_lt {name kind : String} {input rest : List Char} {token : Token}
    (found : readStyle name kind input = .ok (token, rest)) : rest.length < input.length := by
  unfold readStyle at found
  split at found
  · exact Nat.lt_of_lt_of_le (closeStyle_length_lt found)
      (Nat.le_succ_of_le (List.dropWhile_suffix _).length_le)
  · exact closeStyle_length_lt found

theorem openBranches_length_lt {name kind : String} {input rest : List Char} {token : Token}
    (found : openBranches name kind input = .ok (token, rest)) : rest.length < input.length := by
  unfold openBranches at found
  split at found
  · cases found
    exact Nat.lt_succ_self _
  · contradiction

theorem readKind_length_lt {kinds : DirectiveKinds} {name : String} {input rest : List Char}
    {token : Token} (found : readKind kinds name input = .ok (token, rest)) :
    rest.length < input.length := by
  unfold readKind at found
  split at found
  · contradiction
  · rename_i kind behind run
    have shorter := readRun?_length_lt run
    have blanks := skipBlank_length_le behind
    split at found
    · exact Nat.lt_of_lt_of_le (openBranches_length_lt found) (by omega)
    · exact Nat.lt_of_lt_of_le (readStyle_length_lt found) (by omega)

theorem readDirectiveBody_length_lt {kinds : DirectiveKinds} {name : String}
    {input rest : List Char} {token : Token}
    (found : readDirectiveBody kinds name input = .ok (token, rest)) :
    rest.length < input.length := by
  unfold readDirectiveBody at found
  split at found
  · cases found
    exact Nat.lt_succ_self _
  · rename_i behind
    exact Nat.lt_of_lt_of_le (readKind_length_lt found)
      (Nat.le_succ_of_le (skipBlank_length_le behind))
  · contradiction

theorem readDirective_length_lt {kinds : DirectiveKinds} {input rest : List Char}
    {token : Token} (found : readDirective kinds input = .ok (token, rest)) :
    rest.length < input.length := by
  unfold readDirective at found
  split at found
  · contradiction
  · rename_i name behind run
    have body := readDirectiveBody_length_lt found
    have named := readRun?_length_lt run
    have start := skipBlank_length_le input
    have blanks := skipBlank_length_le behind
    omega

theorem readTag_length_lt {input rest : List Char} {token : Token}
    (found : readTag input = .ok (token, rest)) : rest.length < input.length := by
  unfold readTag at found
  split at found
  · contradiction
  · rename_i attributes behind read
    unfold closeTag at found
    split at found
    · rename_i skipped
      cases found
      have named := (List.dropWhile_suffix (l := input) isTagChar).length_le
      have attributed := readAttributes_length_le _ read
      have blanks := skipBlank_length_le behind
      rw [skipped, List.length_cons] at blanks
      omega
    · contradiction

theorem readToken_length_lt {kinds : DirectiveKinds} {input rest : List Char} {token : Token}
    (found : readToken kinds input = .ok (some (token, rest))) :
    rest.length < input.length := by
  unfold readToken at found
  split at found
  · cases found
  · rename_i c behind
    split at found
    · cases behind with
      | nil => cases found; exact Nat.lt_succ_self _
      | cons escaped after =>
          cases found
          simp only [List.length_cons]
          omega
    split at found
    · cases found
      exact Nat.lt_succ_self _
    split at found
    · obtain ⟨result, read, same⟩ := exists_ok_of_map found
      cases same
      exact Nat.lt_succ_of_lt (readDirective_length_lt read)
    split at found
    · unfold readAngle at found
      split at found
      · cases found
        exact Nat.lt_succ_self _
      · rename_i next after
        split at found
        · obtain ⟨result, read, same⟩ := exists_ok_of_map found
          cases same
          exact Nat.lt_succ_of_lt (readTag_length_lt read)
        · split at found
          · cases found
          · cases found
            exact Nat.lt_succ_self _
    split at found
    · cases found
    · cases found
      exact Nat.lt_succ_of_le (List.dropWhile_suffix _).length_le

end Parlance.Pattern
