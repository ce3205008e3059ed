import Parlance.Pattern.Token

namespace Parlance.Pattern

open Parlance.Text

/-! # Reading a pattern

The reader goes through the tokens once and keeps a stack of what is open: branches that
await a closing brace and tags that await a closing tag. A message ends at the end of the
pattern, before a closing brace and before a closing tag; what that end means is decided by
the top of the stack. Each step shortens the pattern.
-/

/-- What is open around the message that is being read. `before` are the nodes in front of
the open directive or tag, the last one first. -/
inductive Frame where
  | branch (before : List Node) (argument kind : String) (branches : List (String × List Node))
      (key : String)
  | tag (before : List Node) (name : String) (attributes : List (String × Option String))

/-- The open frames, the innermost first, and the nodes read in the innermost message, the
last one first. -/
structure Reading where
  frames : List Frame
  nodes : List Node

inductive Step where
  | continued (reading : Reading) (rest : List Char)
  | finished (nodes : List Node) (rest : List Char)

/-- The argument of the innermost open directive that counts, or else that of the
surroundings of the pattern. -/
def countedArgument (kinds : DirectiveKinds) (outer : Option String) :
    List Frame → Option String
  | [] => outer
  | .branch _ argument kind _ _ :: rest =>
    if kinds.isCounting kind then some argument else countedArgument kinds outer rest
  | .tag .. :: rest => countedArgument kinds outer rest

/-- A number sign is text where nothing is counted. -/
def numberSignNode : Option String → Node
  | some argument => .format argument countKind none
  | none => .text "#"

/-- The message made of the nodes, of which the last comes first. -/
def messageOf (nodes : List Node) : List Node :=
  Node.joinTexts nodes.reverse

def closeBranches : List Char → Except Failure (List Char)
  | '}' :: rest => .ok rest
  | rest => fail .closingBrace rest

def openBranch : List Char → Except Failure (List Char)
  | '{' :: rest => .ok rest
  | rest => fail .selectorOpening rest

/-- The key of the next branch and the input behind its opening brace, or no key and the
input behind the directive. A directive has at least one branch, and its keys differ. -/
def readBranch (used : List String) (input : List Char) :
    Except Failure (Option String × List Char) :=
  let start := skipBlank input
  match readRun? isKeyChar start with
  | none =>
    if used.isEmpty then fail .noSelector start
    else (closeBranches start).map (none, ·)
  | some (key, rest) =>
    if key ∈ used then fail .repeatedSelector start
    else (openBranch (skipBlank rest)).map (some key, ·)

/-- Goes on with the next branch of a directive, or behind the directive. -/
def nextBranch (before : List Node) (argument kind : String)
    (branches : List (String × List Node)) (frames : List Frame) (input : List Char) :
    Except Failure Step :=
  match readBranch (Keyed.keys branches) input with
  | .error failure => .error failure
  | .ok (some key, rest) =>
    .ok (.continued ⟨.branch before argument kind branches key :: frames, []⟩ rest)
  | .ok (none, rest) =>
    .ok (.continued ⟨frames, .message argument kind branches :: before⟩ rest)

/-- The input behind a text that it begins with, or where the two come apart. -/
def readExactly? : List Char → List Char → Option (List Char)
  | [], input => some input
  | expected :: more, c :: rest => if expected = c then readExactly? more rest else none
  | _ :: _, [] => none

def endClosingTag : List Char → Except Failure (List Char)
  | '>' :: rest => .ok rest
  | rest => fail .closingTagEnd rest

def beginsWithTagChar : List Char → Bool
  | c :: _ => isTagChar c
  | [] => false

/-- The closing tag of a name behind its slash. The name must be the whole name. -/
def readClosingName (name : String) (input : List Char) : Except Failure (List Char) :=
  match readExactly? name.toList input with
  | none => fail .closingTagName input
  | some rest =>
    if beginsWithTagChar rest then fail .closingTagName rest
    else endClosingTag (skipBlank rest)

def readClosingTag (name : String) : List Char → Except Failure (List Char)
  | '<' :: '/' :: rest => readClosingName name rest
  | rest => fail .closingTag rest

/-- What the end of a message means. -/
def close (reading : Reading) (input : List Char) : Except Failure Step :=
  match reading.frames with
  | [] => .ok (.finished (messageOf reading.nodes) input)
  | .branch before argument kind branches key :: frames =>
    match closeBranches input with
    | .error failure => .error failure
    | .ok rest =>
      nextBranch before argument kind (Keyed.insert branches key (messageOf reading.nodes))
        frames rest
  | .tag before name attributes :: frames =>
    match readClosingTag name input with
    | .error failure => .error failure
    | .ok rest =>
      .ok (.continued ⟨frames, .tag name attributes (messageOf reading.nodes) :: before⟩ rest)

def accept (kinds : DirectiveKinds) (outer : Option String) (reading : Reading)
    (token : Token) (rest : List Char) : Except Failure Step :=
  match token with
  | .text value => .ok (.continued ⟨reading.frames, .text value :: reading.nodes⟩ rest)
  | .numberSign =>
    let node := numberSignNode (countedArgument kinds outer reading.frames)
    .ok (.continued ⟨reading.frames, node :: reading.nodes⟩ rest)
  | .argument name kind style =>
    .ok (.continued ⟨reading.frames, .format name kind style :: reading.nodes⟩ rest)
  | .branching name kind => nextBranch reading.nodes name kind [] reading.frames rest
  | .tag name attributes =>
    .ok (.continued ⟨.tag reading.nodes name attributes :: reading.frames, []⟩ rest)

def step (kinds : DirectiveKinds) (outer : Option String) (reading : Reading)
    (input : List Char) : Except Failure Step :=
  match readToken kinds input with
  | .error failure => .error failure
  | .ok none => close reading input
  | .ok (some (token, rest)) => accept kinds outer reading token rest

theorem closeBranches_length_lt {input rest : List Char}
    (found : closeBranches input = .ok rest) : rest.length < input.length := by
  unfold closeBranches at found
  split at found
  · cases found
    exact Nat.lt_succ_self _
  · contradiction

theorem openBranch_length_lt {input rest : List Char}
    (found : openBranch input = .ok rest) : rest.length < input.length := by
  unfold openBranch at found
  split at found
  · cases found
    exact Nat.lt_succ_self _
  · contradiction

theorem readBranch_length_lt {used : List String} {input rest : List Char}
    {key : Option String} (found : readBranch used input = .ok (key, rest)) :
    rest.length < input.length := by
  have start := skipBlank_length_le input
  simp only [readBranch] at found
  split at found
  · split at found
    · contradiction
    · obtain ⟨behind, closed, same⟩ := exists_ok_of_map found
      cases same
      exact Nat.lt_of_lt_of_le (closeBranches_length_lt closed) start
  · rename_i name behind run
    split at found
    · contradiction
    · obtain ⟨after, opened, same⟩ := exists_ok_of_map found
      cases same
      have shorter := openBranch_length_lt opened
      have named := readRun?_length_lt run
      have blanks := skipBlank_length_le behind
      omega

theorem nextBranch_length_lt {before : List Node} {argument kind : String}
    {branches : List (String × List Node)} {frames : List Frame} {input rest : List Char}
    {reading : Reading}
    (found : nextBranch before argument kind branches frames input =
      .ok (.continued reading rest)) : rest.length < input.length := by
  simp only [nextBranch] at found
  split at found
  · contradiction
  · rename_i read
    cases found
    exact readBranch_length_lt read
  · rename_i read
    cases found
    exact readBranch_length_lt read

theorem readExactly?_length_le {expected input rest : List Char}
    (found : readExactly? expected input = some rest) : rest.length ≤ input.length := by
  fun_induction readExactly? expected input with
  | case1 => cases found; exact Nat.le_refl _
  | case2 more c rest ih => exact Nat.le_succ_of_le (ih found)
  | case3 => contradiction
  | case4 => contradiction

theorem readClosingTag_length_lt {name : String} {input rest : List Char}
    (found : readClosingTag name input = .ok rest) : rest.length < input.length := by
  unfold readClosingTag at found
  split at found
  · rename_i behind
    unfold readClosingName at found
    split at found
    · contradiction
    · rename_i after exact
      have named := readExactly?_length_le exact
      have blanks := skipBlank_length_le after
      split at found
      · contradiction
      · unfold endClosingTag at found
        split at found
        · rename_i skipped
          cases found
          rw [skipped, List.length_cons] at blanks
          simp only [List.length_cons]
          omega
        · contradiction
  · contradiction

theorem close_length_lt {reading next : Reading} {input rest : List Char}
    (found : close reading input = .ok (.continued next rest)) :
    rest.length < input.length := by
  unfold close at found
  split at found
  · cases found
  · split at found
    · contradiction
    · rename_i closed
      exact Nat.lt_trans (nextBranch_length_lt found) (closeBranches_length_lt closed)
  · split at found
    · contradiction
    · rename_i closed
      cases found
      exact readClosingTag_length_lt closed

theorem accept_length_le {kinds : DirectiveKinds} {outer : Option String}
    {reading next : Reading} {token : Token} {input rest : List Char}
    (found : accept kinds outer reading token input = .ok (.continued next rest)) :
    rest.length ≤ input.length := by
  unfold accept at found
  split at found
  · cases found; exact Nat.le_refl _
  · cases found; exact Nat.le_refl _
  · cases found; exact Nat.le_refl _
  · exact Nat.le_of_lt (nextBranch_length_lt found)
  · cases found; exact Nat.le_refl _

theorem step_length_lt {kinds : DirectiveKinds} {outer : Option String}
    {reading next : Reading} {input rest : List Char}
    (found : step kinds outer reading input = .ok (.continued next rest)) :
    rest.length < input.length := by
  unfold step at found
  split at found
  · contradiction
  · exact close_length_lt found
  · rename_i token behind read
    exact Nat.lt_of_le_of_lt (accept_length_le found) (readToken_length_lt read)

/-- Reads on from a state of the reader until the innermost message without a frame ends. -/
def run (kinds : DirectiveKinds) (outer : Option String) (reading : Reading)
    (input : List Char) : Except Failure (List Node × List Char) :=
  match _found : step kinds outer reading input with
  | .error failure => .error failure
  | .ok (.finished nodes rest) => .ok (nodes, rest)
  | .ok (.continued next rest) => run kinds outer next rest
termination_by input.length
decreasing_by exact step_length_lt _found

theorem run_of_error {kinds : DirectiveKinds} {outer : Option String} {reading : Reading}
    {input : List Char} {failure : Failure}
    (stepped : step kinds outer reading input = .error failure) :
    run kinds outer reading input = .error failure := by
  rw [run]
  split <;> simp_all

theorem run_of_finished {kinds : DirectiveKinds} {outer : Option String} {reading : Reading}
    {input rest : List Char} {nodes : List Node}
    (stepped : step kinds outer reading input = .ok (.finished nodes rest)) :
    run kinds outer reading input = .ok (nodes, rest) := by
  rw [run]
  split <;> simp_all

theorem run_of_continued {kinds : DirectiveKinds} {outer : Option String}
    {reading next : Reading} {input rest : List Char}
    (stepped : step kinds outer reading input = .ok (.continued next rest)) :
    run kinds outer reading input = run kinds outer next rest := by
  rw [run]
  split <;> simp_all

/-- The message that the input begins with, and the input behind it. `outer` is the argument
that a number sign stands for outside all directives of the message. -/
def readMessage (kinds : DirectiveKinds) (outer : Option String) (input : List Char) :
    Except Failure (List Node × List Char) :=
  run kinds outer ⟨[], []⟩ input

/-- Why a whole pattern cannot end before `rest`. -/
def leftoverCause : List Char → Cause
  | '<' :: '/' :: _ => .unopenedTag
  | '}' :: _ => .unmatchedBrace
  | c :: _ => .unexpected c
  | [] => .unexpected '?'

def readPattern (kinds : DirectiveKinds) (pattern : List Char) : Except Failure (List Node) :=
  match readMessage kinds none pattern with
  | .error failure => .error failure
  | .ok (nodes, []) => .ok nodes
  | .ok (_, rest) => fail (leftoverCause rest) rest

/-- The message that a pattern spells, or the error with its position. -/
def parse (kinds : DirectiveKinds) (pattern : String) : Except Error (List Node) :=
  (readPattern kinds pattern.toList).mapError (Error.ofFailure pattern.toList)

end Parlance.Pattern
