import Parlance.Proofs.Pattern.Joining

namespace Parlance.Pattern

/-! # What stands in front of a message

Nodes that have been read outside all frames lie at the bottom of the stack, and no step of the
reader looks at them. A reading with such nodes in front goes the same way as the reading without
them, fails at the same places, and has them in front of its message in the end.
-/

/-- The reading with nodes in front of all that it has read, the last one first. -/
def readingBehind (first : List Node) : List Frame → List Node → Reading
  | [], nodes => ⟨[], nodes ++ first⟩
  | .branch before argument kind branches key :: frames, nodes =>
    let around := readingBehind first frames before
    ⟨.branch around.nodes argument kind branches key :: around.frames, nodes⟩
  | .tag before name attributes :: frames, nodes =>
    let around := readingBehind first frames before
    ⟨.tag around.nodes name attributes :: around.frames, nodes⟩

def Step.behind (first : List Node) : Step → Step
  | .continued reading rest => .continued (readingBehind first reading.frames reading.nodes) rest
  | .finished nodes rest => .finished (Node.appendJoined (messageOf first) nodes) rest

variable {kinds : DirectiveKinds} {outer : Option String} {first : List Node}

theorem messageOf_append (nodes first : List Node) :
    messageOf (nodes ++ first) = Node.appendJoined (messageOf first) (messageOf nodes) := by
  simp only [messageOf, List.reverse_append, Node.joinTexts_append]

theorem readingBehind_cons (first : List Node) (frames : List Frame) (node : Node)
    (nodes : List Node) :
    readingBehind first frames (node :: nodes) =
      ⟨(readingBehind first frames nodes).frames,
        node :: (readingBehind first frames nodes).nodes⟩ := by
  cases frames with
  | nil => rfl
  | cons frame frames => cases frame <;> rfl

theorem countedArgument_behind (first : List Node) (frames : List Frame) (nodes : List Node) :
    countedArgument kinds outer (readingBehind first frames nodes).frames =
      countedArgument kinds outer frames := by
  induction frames generalizing nodes with
  | nil => rfl
  | cons frame frames ih => cases frame <;> simp only [readingBehind, countedArgument, ih]

theorem nextBranch_behind (before : List Node) (argument kind : String)
    (branches : List (String × List Node)) (frames : List Frame) (input : List Char) :
    nextBranch (readingBehind first frames before).nodes argument kind branches
        (readingBehind first frames before).frames input =
      (nextBranch before argument kind branches frames input).map (Step.behind first) := by
  unfold nextBranch
  split
  · rfl
  · rfl
  · simp only [Except.map, Step.behind, readingBehind_cons]

theorem close_behind (frames : List Frame) (nodes : List Node) (input : List Char) :
    close (readingBehind first frames nodes) input =
      (close ⟨frames, nodes⟩ input).map (Step.behind first) := by
  cases frames with
  | nil => simp only [readingBehind, close, Except.map, Step.behind, messageOf_append]
  | cons frame frames =>
      cases frame with
      | branch before argument kind branches key =>
          simp only [readingBehind, close]
          split
          · rfl
          · exact nextBranch_behind ..
      | tag before name attributes =>
          simp only [readingBehind, close]
          split
          · rfl
          · simp only [Except.map, Step.behind, readingBehind_cons]

theorem accept_behind (frames : List Frame) (nodes : List Node) (token : Token)
    (rest : List Char) :
    accept kinds outer (readingBehind first frames nodes) token rest =
      (accept kinds outer ⟨frames, nodes⟩ token rest).map (Step.behind first) := by
  cases token with
  | text | argument => simp only [accept, Except.map, Step.behind, readingBehind_cons]
  | numberSign =>
      simp only [accept, Except.map, Step.behind, readingBehind_cons, countedArgument_behind]
  | branching name kind => exact nextBranch_behind ..
  | tag => rfl

theorem step_behind (frames : List Frame) (nodes : List Node) (input : List Char) :
    step kinds outer (readingBehind first frames nodes) input =
      (step kinds outer ⟨frames, nodes⟩ input).map (Step.behind first) := by
  unfold step
  split
  · rfl
  · exact close_behind frames nodes input
  · exact accept_behind frames nodes _ _

/-- Nodes in front are in front of the message in the end, and a failure is the same. -/
theorem run_behind (frames : List Frame) (nodes : List Node) (input : List Char) :
    run kinds outer (readingBehind first frames nodes) input =
      (run kinds outer ⟨frames, nodes⟩ input).map fun result =>
        (Node.appendJoined (messageOf first) result.1, result.2) := by
  rw [run_eq_goOn, run_eq_goOn, step_behind]
  cases stepped : step kinds outer ⟨frames, nodes⟩ input with
  | error failure => rfl
  | ok next =>
      cases next with
      | finished message rest => rfl
      | continued reading rest => exact run_behind reading.frames reading.nodes rest
termination_by input.length
decreasing_by exact step_length_lt stepped

theorem readPattern_of_front {front rest : List Char} {nodes : List Node}
    (read : run kinds none ⟨[], []⟩ (front ++ rest) = run kinds none ⟨[], nodes⟩ rest) :
    readPattern kinds (front ++ rest) =
      (readPattern kinds rest).map (Node.appendJoined (messageOf nodes)) := by
  have moved := @run_behind kinds none nodes [] [] rest
  rw [readingBehind, List.nil_append] at moved
  simp only [readPattern, readMessage, read, moved]
  cases run kinds none ⟨[], []⟩ rest with
  | error failure => rfl
  | ok result =>
      obtain ⟨message, left⟩ := result
      cases left <;> rfl

end Parlance.Pattern
