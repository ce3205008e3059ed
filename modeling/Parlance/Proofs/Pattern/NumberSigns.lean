import Mathlib.Data.List.Forall2
import Parlance.Proofs.Format.Builtin
import Parlance.Proofs.Pattern.Joining

namespace Parlance

/-! # What number signs stand for

Which directives count has no say in whether a pattern can be read. Two tables of kinds that agree
in which kinds have branches lead the reader through the same steps, to the same failure or to
messages that are the same once every number sign is text again.
-/

namespace Node

mutual

/-- A directive that a number sign may stand for gives way to the sign. -/
def signAsText : Node → Node
  | .text value => .text value
  | .format argument kind style =>
    if kind = countKind ∧ style = none then .text "#" else .format argument kind style
  | .message argument kind branches => .message argument kind (signsAsTextBranches branches)
  | .tag name attributes children => .tag name attributes (signsAsText children)

/-- The message with number signs as text, at every depth, and with adjacent texts joined. -/
def signsAsText : List Node → List Node
  | [] => []
  | node :: rest => consJoined (signAsText node) (signsAsText rest)

def signsAsTextBranches : List (String × List Node) → List (String × List Node)
  | [] => []
  | (key, nodes) :: rest => (key, signsAsText nodes) :: signsAsTextBranches rest

end

theorem signsAsTextBranches_eq (branches : List (String × List Node)) :
    signsAsTextBranches branches = Keyed.mapValues signsAsText branches := by
  induction branches with
  | nil => rfl
  | cons entry rest ih =>
      obtain ⟨key, nodes⟩ := entry
      rw [signsAsTextBranches, ih]
      rfl

theorem signsAsText_consJoined (node : Node) (nodes : List Node) :
    signsAsText (consJoined node nodes) = consJoined (signAsText node) (signsAsText nodes) := by
  fun_cases consJoined node nodes with
  | case1 first second rest => simp only [signsAsText, signAsText, consJoined_text_text]
  | case2 => rw [signsAsText]

theorem signsAsText_joinTexts (nodes : List Node) :
    signsAsText (joinTexts nodes) = signsAsText nodes := by
  induction nodes with
  | nil => rfl
  | cons node rest ih => rw [joinTexts, signsAsText_consJoined, ih, signsAsText]

theorem signsAsText_append (nodes more : List Node) :
    signsAsText (nodes ++ more) = appendJoined (signsAsText nodes) (signsAsText more) := by
  induction nodes with
  | nil => rfl
  | cons node rest ih =>
      rw [List.cons_append, signsAsText, ih, signsAsText, consJoined_appendJoined]

end Node

namespace Pattern

open Node

/-- Nodes kept in reverse that are the same message but for number signs. -/
def SameBack (nodes nodes' : List Node) : Prop :=
  signsAsText nodes.reverse = signsAsText nodes'.reverse

inductive Frame.Alike : Frame → Frame → Prop
  | branch (before : SameBack nodes nodes')
      (branches : Keyed.mapValues signsAsText entries = Keyed.mapValues signsAsText entries') :
      Alike (.branch nodes argument kind entries key) (.branch nodes' argument kind entries' key)
  | tag (before : SameBack nodes nodes') :
      Alike (.tag nodes name attributes) (.tag nodes' name attributes)

/-- Two states of the reader that differ in what number signs stand for. -/
structure Reading.Alike (first second : Reading) : Prop where
  frames : List.Forall₂ Frame.Alike first.frames second.frames
  nodes : SameBack first.nodes second.nodes

inductive Step.Alike : Step → Step → Prop
  | continued (alike : Reading.Alike first second) :
      Alike (.continued first rest) (.continued second rest)
  | finished (same : signsAsText nodes = signsAsText nodes') :
      Alike (.finished nodes rest) (.finished nodes' rest)

/-- Both fail in the same way, or both succeed with results that are related. -/
inductive Both (relation : α → α → Prop) : Except ε α → Except ε α → Prop
  | error (reason : ε) : Both relation (.error reason) (.error reason)
  | ok (related : relation first second) : Both relation (.ok first) (.ok second)

variable {kinds other : DirectiveKinds} {outer outer' : Option String}
  {first second : Reading} {nodes nodes' : List Node}

theorem SameBack.push {node node' : Node} (same : SameBack nodes nodes')
    (sameNode : signAsText node = signAsText node') :
    SameBack (node :: nodes) (node' :: nodes') := by
  unfold SameBack at same ⊢
  simp only [List.reverse_cons, signsAsText_append, same, signsAsText, sameNode]

theorem SameBack.messageOf (same : SameBack nodes nodes') :
    signsAsText (messageOf nodes) = signsAsText (messageOf nodes') := by
  rw [Pattern.messageOf, Pattern.messageOf, signsAsText_joinTexts, signsAsText_joinTexts, same]

theorem signAsText_numberSignNode (counted : Option String) :
    signAsText (numberSignNode counted) = .text "#" := by
  cases counted with
  | none => rfl
  | some argument => simp [numberSignNode, signAsText]

theorem readToken_of_branching (same : ∀ kind, kinds.isBranching kind = other.isBranching kind)
    (input : List Char) : readToken kinds input = readToken other input := by
  obtain ⟨branching, counting⟩ := kinds
  obtain ⟨branching', counting'⟩ := other
  obtain rfl : branching = branching' := funext same
  rfl

section Steps

variable {frames frames' : List Frame} {argument kind : String}
  {branches branches' : List (String × List Node)}

theorem nextBranch_alike (before : SameBack nodes nodes')
    (same : Keyed.mapValues signsAsText branches = Keyed.mapValues signsAsText branches')
    (alike : List.Forall₂ Frame.Alike frames frames') (input : List Char) :
    Both Step.Alike (nextBranch nodes argument kind branches frames input)
      (nextBranch nodes' argument kind branches' frames' input) := by
  have keys : Keyed.keys branches = Keyed.keys branches' := by
    rw [← Keyed.keys_mapValues signsAsText branches, same, Keyed.keys_mapValues]
  unfold nextBranch
  rw [keys]
  cases readBranch (Keyed.keys branches') input with
  | error failure => exact .error failure
  | ok read =>
      obtain ⟨key, rest⟩ := read
      cases key with
      | some key => exact .ok (.continued ⟨.cons (.branch before same) alike, rfl⟩)
      | none =>
          have node : signAsText (.message argument kind branches) =
              signAsText (.message argument kind branches') := by
            simp only [signAsText, signsAsTextBranches_eq, same]
          exact .ok (.continued ⟨alike, before.push node⟩)

theorem close_alike (alike : Reading.Alike first second) (input : List Char) :
    Both Step.Alike (close first input) (close second input) := by
  obtain ⟨frames, nodes⟩ := first
  obtain ⟨frames', nodes'⟩ := second
  obtain ⟨opened, same⟩ := alike
  have message := same.messageOf
  cases opened with
  | nil => exact .ok (.finished message)
  | cons frame outside =>
      cases frame with
      | branch before branches =>
          simp only [close]
          cases closeBranches input with
          | error failure => exact .error failure
          | ok rest =>
              refine nextBranch_alike before ?_ outside rest
              rw [Keyed.mapValues_insert, Keyed.mapValues_insert, branches, message]
      | @tag _ _ name attributes before =>
          simp only [close]
          cases readClosingTag name input with
          | error failure => exact .error failure
          | ok rest =>
              have node : signAsText (.tag name attributes (messageOf nodes)) =
                  signAsText (.tag name attributes (messageOf nodes')) := by
                simp only [signAsText, message]
              exact .ok (.continued ⟨outside, before.push node⟩)

theorem accept_alike (alike : Reading.Alike first second) (token : Token) (rest : List Char) :
    Both Step.Alike (accept kinds outer first token rest)
      (accept other outer' second token rest) := by
  obtain ⟨opened, same⟩ := alike
  cases token with
  | text value => exact .ok (.continued ⟨opened, same.push rfl⟩)
  | numberSign =>
      have node : signAsText (numberSignNode (countedArgument kinds outer first.frames)) =
          signAsText (numberSignNode (countedArgument other outer' second.frames)) := by
        rw [signAsText_numberSignNode, signAsText_numberSignNode]
      exact .ok (.continued ⟨opened, same.push node⟩)
  | argument name kind style => exact .ok (.continued ⟨opened, same.push rfl⟩)
  | branching name kind => exact nextBranch_alike same rfl opened rest
  | tag name attributes => exact .ok (.continued ⟨.cons (.tag same) opened, rfl⟩)

end Steps

/-- A step is the same but for number signs, whatever counts. -/
theorem step_alike (same : ∀ kind, kinds.isBranching kind = other.isBranching kind)
    (alike : Reading.Alike first second) (input : List Char) :
    Both Step.Alike (step kinds outer first input) (step other outer' second input) := by
  unfold step
  rw [readToken_of_branching same]
  cases readToken other input with
  | error failure => exact .error failure
  | ok ahead =>
      cases ahead with
      | none => exact close_alike alike input
      | some ahead => exact accept_alike alike ahead.1 ahead.2

/-- So is a whole reading: it fails in the same way, or it ends at the same place. -/
theorem run_alike (same : ∀ kind, kinds.isBranching kind = other.isBranching kind)
    {first second : Reading} (alike : Reading.Alike first second) (input : List Char) :
    Both (fun result result' => signsAsText result.1 = signsAsText result'.1 ∧ result.2 = result'.2)
      (run kinds outer first input) (run other outer' second input) := by
  have stepped := @step_alike kinds other outer outer' first second same alike input
  generalize left : step kinds outer first input = result at stepped
  generalize right : step other outer' second input = result' at stepped
  rw [run_eq_goOn, run_eq_goOn, left, right]
  cases stepped with
  | error reason => exact .error reason
  | ok related =>
      cases related with
      | finished message => exact .ok ⟨message, rfl⟩
      | continued later => exact run_alike same later _
termination_by input.length
decreasing_by exact step_length_lt left

/-- The meaning of number signs has no say in whether a pattern is read, or in its error. What is
read is the same message but for them. -/
theorem parse_same_but_for_signs
    (same : ∀ kind, kinds.isBranching kind = other.isBranching kind) (pattern : String) :
    (∃ error, parse kinds pattern = .error error ∧ parse other pattern = .error error) ∨
      ∃ nodes nodes', parse kinds pattern = .ok nodes ∧ parse other pattern = .ok nodes' ∧
        signsAsText nodes = signsAsText nodes' := by
  have start : Reading.Alike ⟨[], []⟩ ⟨[], []⟩ := ⟨.nil, rfl⟩
  have read := @run_alike kinds other none none same _ _ start pattern.toList
  simp only [parse, readPattern, readMessage]
  generalize run kinds none ⟨[], []⟩ pattern.toList = result at read ⊢
  generalize run other none ⟨[], []⟩ pattern.toList = result' at read ⊢
  cases read with
  | error failure => exact Or.inl ⟨_, rfl, rfl⟩
  | @ok first second related =>
      obtain ⟨nodes, rest⟩ := first
      obtain ⟨nodes', rest'⟩ := second
      obtain ⟨message, rfl⟩ := related
      cases rest with
      | nil => exact Or.inr ⟨nodes, nodes', rfl, rfl, message⟩
      | cons c behind => exact Or.inl ⟨_, rfl, rfl⟩

section Example

/-- Plurals in which number signs stand for the argument, or are text. -/
def pluralKinds (counting : Bool) : DirectiveKinds :=
  ⟨(· == "plural"), fun _ => counting⟩

def signPattern : String :=
  "\x7bn, plural, other \x7ba#b<i>#</i>\x7d\x7d"

theorem signs_counted_or_plain :
    parse (pluralKinds true) signPattern =
        .ok [.message "n" "plural" [("other", [.text "a", .format "n" countKind none, .text "b",
          .tag "i" [] [.format "n" countKind none]])]] ∧
      parse (pluralKinds false) signPattern =
        .ok [.message "n" "plural" [("other", [.text "a#b", .tag "i" [] [.text "#"]])]] ∧
      signsAsText [.message "n" "plural" [("other", [.text "a", .format "n" countKind none,
          .text "b", .tag "i" [] [.format "n" countKind none]])]] =
        signsAsText [.message "n" "plural" [("other", [.text "a#b", .tag "i" [] [.text "#"]])]] := by
  have branching : ∀ kind,
      (pluralKinds true).isBranching kind = (pluralKinds false).isBranching kind := fun _ => rfl
  have counted : parse (pluralKinds true) signPattern =
      .ok [.message "n" "plural" [("other", [.text "a", .format "n" countKind none, .text "b",
        .tag "i" [] [.format "n" countKind none]])]] := by decide +kernel
  have plain : parse (pluralKinds false) signPattern =
      .ok [.message "n" "plural" [("other", [.text "a#b", .tag "i" [] [.text "#"]])]] := by
    decide +kernel
  refine ⟨counted, plain, ?_⟩
  rcases parse_same_but_for_signs branching signPattern with
    ⟨error, failed, _⟩ | ⟨nodes, nodes', read, read', same⟩
  · rw [counted] at failed
    contradiction
  · rw [counted] at read
    rw [plain] at read'
    cases read
    cases read'
    exact same

end Example

end Pattern

end Parlance
