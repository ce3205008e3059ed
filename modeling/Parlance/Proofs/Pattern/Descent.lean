import Parlance.Proofs.Pattern.Calls
import Parlance.Proofs.Pattern.Completeness

namespace Parlance.Pattern

open Parlance.Text

/-! # Reading by descent

The reader without a stack: each construct has a reader of its own, which calls the readers of what
is inside, and a node is read by trying one reader after the other. All the calls go round in two
loops, one over the nodes of a message and one over the branches of a directive. Nothing about the
recursion says that it ends. A token is a construct without anything inside it, so a node is read
by its first token whatever the order of the readers.
-/

section Trials

def readEscaped? : List Char → Option (Node × List Char)
  | '\\' :: c :: rest => some (.text (escapedText c), rest)
  | _ => none

def readNumberSign? (scope : Option String) : List Char → Option (Node × List Char)
  | '#' :: rest => some (numberSignNode scope, rest)
  | _ => none

def readOrdinary? (input : List Char) : Option (Node × List Char) :=
  (readRun? isOrdinary input).map fun (text, rest) => (.text text, rest)

/-- An angle bracket that opens and closes nothing, or the last backslash of a pattern. -/
def readStray? : List Char → Option (Node × List Char)
  | '<' :: '/' :: _ => none
  | '<' :: rest => some (.text "<", rest)
  | '\\' :: rest => some (.text "\\", rest)
  | _ => none

end Trials

/-- A call of one of the two loops. The one over branches has those that are already read. -/
inductive Loop where
  | nodes (scope : Option String) (input : List Char)
  | branches (scope : Option String) (branches : List (String × List Node)) (input : List Char)

/-- What a loop reads, and the input that it leaves. -/
abbrev Loop.Answer : Loop → Type
  | .nodes _ _ => List Node × List Char
  | .branches _ _ _ => List (String × List Node) × List Char

section Readers

variable (kinds : DirectiveKinds) (calls : Calls Loop.Answer)

def messageBy (scope : Option String) (input : List Char) : Call (List Node × List Char) := do
  let (nodes, rest) ← calls (.nodes scope input)
  return (Node.joinTexts nodes, rest)

/-- One branch with its key, or none where no key stands. -/
def branchBy (scope : Option String) (used : List String) (input : List Char) :
    Call (Option (String × List Node) × List Char) :=
  match readRun? isKeyChar (skipBlank input) with
  | none => return (none, skipBlank input)
  | some (key, rest) =>
    if key ∈ used then answered (fail .repeatedSelector (skipBlank input))
    else do
      let rest ← answered (openBranch (skipBlank rest))
      let (message, rest) ← messageBy calls scope rest
      let rest ← answered (closeBranches rest)
      return (some (key, message), rest)

/-- The node of a token, with the branches or the children behind the token. -/
def behindBy (scope : Option String) (token : Token) (input : List Char) :
    Call (Node × List Char) :=
  match token with
  | .text value => return (.text value, input)
  | .numberSign => return (numberSignNode scope, input)
  | .argument name kind style => return (.format name kind style, input)
  | .branching name kind => do
    let (branches, rest) ← calls (.branches (branchScope kinds scope name kind) [] input)
    let rest ← answered (closeBranches (skipBlank rest))
    return (.message name kind branches, rest)
  | .tag name attributes => do
    let (children, rest) ← messageBy calls scope input
    let rest ← answered (readClosingTag name rest)
    return (.tag name attributes children, rest)

def directiveBy (scope : Option String) (input : List Char) : Call (Option Node × List Char) :=
  match input with
  | '{' :: rest => do
    let (token, rest) ← answered (readDirective kinds rest)
    let (node, rest) ← behindBy kinds calls scope token rest
    return (some node, rest)
  | input => return (none, input)

/-- A tag. Where no name follows the angle bracket, only the bracket has been taken. -/
def tagBy (scope : Option String) (input : List Char) : Call (Option Node × List Char) :=
  match input with
  | '<' :: rest =>
    if rest.head?.any Char.isAlpha then do
      let (token, rest) ← answered (readTag rest)
      let (node, rest) ← behindBy kinds calls scope token rest
      return (some node, rest)
    else return (none, rest)
  | input => return (none, input)

/-- One node, or none where every reader gives up. A reader that gives up hands its input on to the
next one, and one that fails ends the whole reading. -/
def nodeBy (scope : Option String) (input : List Char) : Call (Option Node × List Char) :=
  match (readEscaped? input).or (readNumberSign? scope input) with
  | some (node, rest) => return (some node, rest)
  | none => do
    let (found, rest) ← directiveBy kinds calls scope input
    if found.isSome then return (found, rest)
    let (found, rest) ← tagBy kinds calls scope input
    if found.isSome then return (found, rest)
    match (readOrdinary? input).or (readStray? input) with
    | some (node, rest) => return (some node, rest)
    | none => return (none, input)

/-- Nodes until there is none. Branches one after the other, at least one. -/
def loopBy : Calls Loop.Answer
  | .nodes scope input => do
    match ← nodeBy kinds calls scope input with
    | (none, _) => return ([], input)
    | (some node, rest) =>
      let (more, rest) ← calls (.nodes scope rest)
      return (node :: more, rest)
  | .branches scope branches input => do
    match ← branchBy calls scope (Keyed.keys branches) input with
    | (none, rest) =>
      if branches.isEmpty then answered (fail .noSelector rest) else return (branches, rest)
    | (some (key, message), rest) =>
      calls (.branches scope (Keyed.insert branches key message) rest)

end Readers

section Finite

variable {kinds : DirectiveKinds} {scope : Option String} {input : List Char}

theorem messageBy_asksFinitely : AsksFinitely fun calls => messageBy calls scope input :=
  (asksFinitely_call (Loop.nodes scope input)).bind fun _ => asksFinitely_const _

theorem branchBy_asksFinitely {used : List String} :
    AsksFinitely fun calls => branchBy calls scope used input := by
  unfold branchBy
  split
  · exact asksFinitely_const _
  split
  · exact asksFinitely_const _
  exact (asksFinitely_const _).bind fun _ => messageBy_asksFinitely.bind fun _ =>
    (asksFinitely_const _).bind fun _ => asksFinitely_const _

theorem behindBy_asksFinitely {token : Token} :
    AsksFinitely fun calls => behindBy kinds calls scope token input := by
  cases token with
  | text | numberSign | argument => exact asksFinitely_const _
  | branching name kind =>
      exact (asksFinitely_call (Loop.branches (branchScope kinds scope name kind) [] input)).bind
        fun _ => (asksFinitely_const _).bind fun _ => asksFinitely_const _
  | tag name attributes =>
      exact messageBy_asksFinitely.bind fun _ =>
        (asksFinitely_const _).bind fun _ => asksFinitely_const _

theorem directiveBy_asksFinitely :
    AsksFinitely fun calls => directiveBy kinds calls scope input := by
  unfold directiveBy
  split
  · exact (asksFinitely_const _).bind fun _ => behindBy_asksFinitely.bind fun _ =>
      asksFinitely_const _
  · exact asksFinitely_const _

theorem tagBy_asksFinitely : AsksFinitely fun calls => tagBy kinds calls scope input := by
  unfold tagBy
  split
  · split
    · exact (asksFinitely_const _).bind fun _ => behindBy_asksFinitely.bind fun _ =>
        asksFinitely_const _
    · exact asksFinitely_const _
  · exact asksFinitely_const _

theorem nodeBy_asksFinitely : AsksFinitely fun calls => nodeBy kinds calls scope input := by
  unfold nodeBy
  split
  · exact asksFinitely_const _
  refine directiveBy_asksFinitely.bind fun (found, rest) => ?_
  dsimp only
  split
  · exact asksFinitely_const _
  refine tagBy_asksFinitely.bind fun (found, rest) => ?_
  dsimp only
  split
  · exact asksFinitely_const _
  · exact asksFinitely_const _

theorem loopBy_asksFinitely (loop : Loop) : AsksFinitely fun calls => loopBy kinds calls loop := by
  cases loop with
  | nodes scope input =>
      refine nodeBy_asksFinitely.bind fun (node, rest) => ?_
      cases node with
      | none => exact asksFinitely_const _
      | some node =>
          exact (asksFinitely_call (Loop.nodes scope rest)).bind fun _ => asksFinitely_const _
  | branches scope branches input =>
      refine branchBy_asksFinitely.bind fun (branch, rest) => ?_
      cases branch with
      | none => exact asksFinitely_const _
      | some branch => exact asksFinitely_call (Loop.branches scope _ rest)

end Finite

variable {kinds : DirectiveKinds} {calls : Calls Loop.Answer} {scope : Option String}
  {input rest : List Char}

section Choice

/-- The node that a token begins. -/
def nodeBehind (kinds : DirectiveKinds) (calls : Calls Loop.Answer) (scope : Option String) :
    Option (Token × List Char) → List Char → Call (Option Node × List Char)
  | none, input => return (none, input)
  | some (token, rest), _ => do
    let (node, rest) ← behindBy kinds calls scope token rest
    return (some node, rest)

theorem directiveBy_of_ne (other : ∀ more, input ≠ '{' :: more) :
    directiveBy kinds calls scope input = answered (.ok (none, input)) :=
  directiveBy.eq_2 kinds calls scope input other

theorem tagBy_of_ne (other : ∀ more, input ≠ '<' :: more) :
    tagBy kinds calls scope input = answered (.ok (none, input)) :=
  tagBy.eq_2 kinds calls scope input other

theorem cons_ne {c other : Char} (differ : c ≠ other) (more : List Char) :
    c :: input ≠ other :: more :=
  fun same => differ (List.cons.inj same).1

/-- What is neither a directive nor a tag is tried as text. -/
theorem nodeBy_of_text (noDirective : ∀ more, input ≠ '{' :: more)
    (noTag : ∀ more, input ≠ '<' :: more)
    (unread : (readEscaped? input).or (readNumberSign? scope input) = none) :
    nodeBy kinds calls scope input =
      match (readOrdinary? input).or (readStray? input) with
      | some (node, rest) => answered (.ok (some node, rest))
      | none => answered (.ok (none, input)) := by
  rw [nodeBy, unread]
  simp only [directiveBy_of_ne noDirective, tagBy_of_ne noTag, answered_ok_bind]
  rfl

theorem nodeBy_backslash : nodeBy kinds calls scope ('\\' :: input) =
    answered (readToken kinds ('\\' :: input)) >>= fun found =>
      nodeBehind kinds calls scope found ('\\' :: input) := by
  cases input with
  | nil =>
      rw [nodeBy_of_text (cons_ne (by decide)) (cons_ne (by decide)) rfl]
      simp only [readToken, if_true, readEscape, answered_ok_bind, nodeBehind, behindBy]
      rfl
  | cons escaped rest =>
      rw [nodeBy]
      simp only [readToken, if_true, readEscape, answered_ok_bind, nodeBehind, behindBy]
      rfl

theorem nodeBy_brace : nodeBy kinds calls scope ('{' :: input) =
    answered (readToken kinds ('{' :: input)) >>= fun found =>
      nodeBehind kinds calls scope found ('{' :: input) := by
  have opened : readToken kinds ('{' :: input) = (readDirective kinds input).map some := rfl
  rw [nodeBy, directiveBy, opened]
  cases readDirective kinds input with
  | error failure => rfl
  | ok found =>
      simp [readEscaped?, readNumberSign?, Except.map, nodeBehind]

/-- What a tag is tried as: a tag where a name follows, and else text. -/
theorem nodeBy_angle : nodeBy kinds calls scope ('<' :: input) =
    answered (readToken kinds ('<' :: input)) >>= fun found =>
      nodeBehind kinds calls scope found ('<' :: input) := by
  have opened : readToken kinds ('<' :: input) = readAngle input := rfl
  have noText : readOrdinary? ('<' :: input) = none := rfl
  rw [nodeBy, directiveBy_of_ne (cons_ne (by decide)), tagBy, opened]
  simp only [readEscaped?, readNumberSign?, answered_ok_bind, noText,
    Option.none_or, Option.isSome_none, Bool.false_eq_true, if_false]
  cases input with
  | nil =>
      simp [readAngle, nodeBehind, behindBy, readStray?]
  | cons c more =>
      by_cases letter : c.isAlpha = true
      · simp only [readAngle, letter, if_true, List.head?_cons, Option.any_some]
        cases readTag (c :: more) with
        | error failure => rfl
        | ok found => simp [Except.map, nodeBehind]
      · by_cases slash : c = '/'
        · subst slash
          simp [readAngle, nodeBehind, readStray?]
        · simp [readAngle, letter, slash, nodeBehind, behindBy, readStray?]

theorem nodeBy_ordinary {c : Char} (noBackslash : c ≠ '\\') (noSign : c ≠ '#')
    (noBrace : c ≠ '{') (noAngle : c ≠ '<') (noEnd : c ≠ '}') :
    nodeBy kinds calls scope (c :: input) =
      answered (readToken kinds (c :: input)) >>= fun found =>
        nodeBehind kinds calls scope found (c :: input) := by
  have ordinary := isOrdinary_of_ne noBackslash noSign noBrace noAngle noEnd
  have untaken : (readEscaped? (c :: input)).or (readNumberSign? scope (c :: input)) = none := by
    rw [readEscaped?.eq_2 _ fun first more same => noBackslash (List.cons.inj same).1,
      readNumberSign?.eq_2 _ _ (cons_ne noSign)]
    rfl
  rw [nodeBy_of_text (cons_ne noBrace) (cons_ne noAngle) untaken,
    readToken_of_ordinary ordinary]
  simp only [readOrdinary?, readRun?, List.takeWhile_cons_of_pos ordinary,
    List.dropWhile_cons_of_pos ordinary, answered_ok_bind, nodeBehind, behindBy]
  rfl

/-- Trying one reader after the other comes to the same as looking at the first token. -/
theorem nodeBy_eq (kinds : DirectiveKinds) (calls : Calls Loop.Answer) (scope : Option String)
    (input : List Char) :
    nodeBy kinds calls scope input =
      answered (readToken kinds input) >>= fun found => nodeBehind kinds calls scope found input := by
  cases input with
  | nil => exact nodeBy_of_text (fun _ same => nomatch same) (fun _ same => nomatch same) rfl
  | cons c rest =>
      by_cases backslash : c = '\\'
      · subst backslash
        exact nodeBy_backslash
      by_cases sign : c = '#'
      · subst sign
        rw [nodeBy]
        simp [readToken, nodeBehind, behindBy, readEscaped?, readNumberSign?]
      by_cases brace : c = '{'
      · subst brace
        exact nodeBy_brace
      by_cases angle : c = '<'
      · subst angle
        exact nodeBy_angle
      by_cases closed : c = '}'
      · subst closed
        exact nodeBy_of_text (cons_ne (by decide)) (cons_ne (by decide)) rfl
      exact nodeBy_ordinary backslash sign brace angle closed

/-- Where a brace opens, a node is a directive. -/
theorem directiveBy_brace : directiveBy kinds calls scope ('{' :: input) =
    nodeBy kinds calls scope ('{' :: input) := by
  have opened : readToken kinds ('{' :: input) = (readDirective kinds input).map some := rfl
  rw [nodeBy_eq, directiveBy, opened]
  cases readDirective kinds input with
  | error failure => rfl
  | ok found => rfl

/-- Where a name follows an angle bracket, a node is a tag. -/
theorem tagBy_of_letter (letter : input.head?.any Char.isAlpha = true) :
    tagBy kinds calls scope ('<' :: input) = nodeBy kinds calls scope ('<' :: input) := by
  cases input with
  | nil => contradiction
  | cons c more =>
      have opened : readToken kinds ('<' :: c :: more) = (readTag (c :: more)).map some :=
        if_pos letter
      rw [nodeBy_eq, tagBy, if_pos letter, opened]
      cases readTag (c :: more) with
      | error failure => rfl
      | ok found => rfl

end Choice

section Descent

/-- The loops with as many calls inside of each other as they need. -/
noncomputable def descend (kinds : DirectiveKinds) : Calls Loop.Answer :=
  recursion (loopBy kinds)

theorem descend_eq (kinds : DirectiveKinds) (loop : Loop) :
    descend kinds loop = loopBy kinds (descend kinds) loop :=
  recursion_eq loopBy_asksFinitely loop

noncomputable def descendNode (kinds : DirectiveKinds) (scope : Option String)
    (input : List Char) : Call (Option Node × List Char) :=
  nodeBy kinds (descend kinds) scope input

noncomputable def descendDirective (kinds : DirectiveKinds) (scope : Option String)
    (input : List Char) : Call (Option Node × List Char) :=
  directiveBy kinds (descend kinds) scope input

noncomputable def descendTag (kinds : DirectiveKinds) (scope : Option String)
    (input : List Char) : Call (Option Node × List Char) :=
  tagBy kinds (descend kinds) scope input

noncomputable def descendBehind (kinds : DirectiveKinds) (scope : Option String) (token : Token)
    (input : List Char) : Call (Node × List Char) :=
  behindBy kinds (descend kinds) scope token input

noncomputable def descendBranches (kinds : DirectiveKinds) (scope : Option String)
    (branches : List (String × List Node)) (input : List Char) :
    Call (List (String × List Node) × List Char) :=
  descend kinds (.branches scope branches input)

noncomputable def descendBranch (kinds : DirectiveKinds) (scope : Option String)
    (used : List String) (input : List Char) : Call (Option (String × List Node) × List Char) :=
  branchBy (descend kinds) scope used input

noncomputable def descendNodes (kinds : DirectiveKinds) (scope : Option String)
    (input : List Char) : Call (List Node × List Char) :=
  descend kinds (.nodes scope input)

noncomputable def descendMessage (kinds : DirectiveKinds) (scope : Option String)
    (input : List Char) : Call (List Node × List Char) :=
  messageBy (descend kinds) scope input

end Descent

end Parlance.Pattern
