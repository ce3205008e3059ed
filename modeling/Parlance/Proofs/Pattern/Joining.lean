import Parlance.Pattern.Reader
import Parlance.Proofs.Pattern.Runs

namespace Parlance

open Parlance.Text

/-! # Joined texts

The reader keeps the texts of a message apart until the message ends. It makes no difference
when they are joined: a reading goes on in the same way if all texts in it are joined at once,
and so a run of text may be read in parts.
-/

namespace Node

theorem consJoined_text_text (first second : String) (nodes : List Node) :
    consJoined (.text first) (consJoined (.text second) nodes) =
      consJoined (.text (first ++ second)) nodes := by
  cases nodes with
  | nil => rfl
  | cons node rest =>
      cases node with
      | text value => simp only [consJoined, String.append_assoc]
      | format | message | tag => rfl

theorem joinTexts_consJoined_append (node : Node) (nodes more : List Node) :
    joinTexts (consJoined node nodes ++ more) = consJoined node (joinTexts (nodes ++ more)) := by
  fun_cases consJoined node nodes with
  | case1 first second rest =>
      simp only [List.cons_append, joinTexts, consJoined_text_text]
  | case2 => simp only [List.cons_append, joinTexts]

theorem joinTexts_joinTexts_append (nodes more : List Node) :
    joinTexts (joinTexts nodes ++ more) = joinTexts (nodes ++ more) := by
  induction nodes with
  | nil => rfl
  | cons node rest ih =>
      simp only [joinTexts, List.cons_append, joinTexts_consJoined_append, ih]

theorem joinTexts_joinTexts (nodes : List Node) :
    joinTexts (joinTexts nodes) = joinTexts nodes := by
  have joined := joinTexts_joinTexts_append nodes []
  simpa only [List.append_nil] using joined

theorem joinTexts_append_joinTexts (nodes more : List Node) :
    joinTexts (nodes ++ joinTexts more) = joinTexts (nodes ++ more) := by
  induction nodes with
  | nil => exact joinTexts_joinTexts more
  | cons node rest ih => simp only [List.cons_append, joinTexts, ih]

/-- The second message behind the first. Two texts that meet become one. -/
def appendJoined : List Node → List Node → List Node
  | [], more => more
  | [last], more => consJoined last more
  | node :: rest, more => node :: appendJoined rest more

/-- A node that joins the beginning of the first message does so before or after the second message
comes behind it. -/
theorem consJoined_appendJoined (node : Node) (nodes more : List Node) :
    consJoined node (appendJoined nodes more) = appendJoined (consJoined node nodes) more := by
  cases nodes with
  | nil => cases node <;> rfl
  | cons next rest =>
      cases node with
      | format | message | tag => rfl
      | text first =>
          cases next with
          | format | message | tag => cases rest <;> rfl
          | text second =>
              cases rest with
              | nil => exact consJoined_text_text first second more
              | cons => rfl

theorem joinTexts_append (nodes more : List Node) :
    joinTexts (nodes ++ more) = appendJoined (joinTexts nodes) (joinTexts more) := by
  induction nodes with
  | nil => rfl
  | cons node rest ih => rw [List.cons_append, joinTexts, ih, consJoined_appendJoined, joinTexts]

end Node

namespace Pattern

/-- Nodes that are kept in reverse, with adjacent texts joined. -/
def joinedBack (nodes : List Node) : List Node :=
  (messageOf nodes).reverse

def Frame.joined : Frame → Frame
  | .branch before argument kind branches key =>
    .branch (joinedBack before) argument kind branches key
  | .tag before name attributes => .tag (joinedBack before) name attributes

def Reading.joined (reading : Reading) : Reading :=
  ⟨reading.frames.map Frame.joined, joinedBack reading.nodes⟩

def Step.joined : Step → Step
  | .continued reading rest => .continued reading.joined rest
  | .finished nodes rest => .finished nodes rest

theorem messageOf_joinedBack (nodes : List Node) :
    messageOf (joinedBack nodes) = messageOf nodes := by
  simp only [joinedBack, messageOf, List.reverse_reverse, Node.joinTexts_joinTexts]

theorem joinedBack_joinedBack (nodes : List Node) :
    joinedBack (joinedBack nodes) = joinedBack nodes := by
  rw [joinedBack, messageOf_joinedBack, joinedBack]

theorem joinedBack_cons (node : Node) (nodes : List Node) :
    joinedBack (node :: joinedBack nodes) = joinedBack (node :: nodes) := by
  simp only [joinedBack, messageOf, List.reverse_cons, List.reverse_reverse,
    Node.joinTexts_joinTexts_append]

theorem joinedBack_texts (first second : String) (nodes : List Node) :
    joinedBack (.text second :: .text first :: nodes) =
      joinedBack (.text (first ++ second) :: nodes) := by
  have pair : Node.joinTexts [.text first, .text second] =
      Node.joinTexts [.text (first ++ second)] := rfl
  have joined : Node.joinTexts (nodes.reverse ++ [.text first, .text second]) =
      Node.joinTexts (nodes.reverse ++ [.text (first ++ second)]) := by
    rw [← Node.joinTexts_append_joinTexts, pair, Node.joinTexts_append_joinTexts]
  simpa [joinedBack, messageOf] using joined

theorem Frame.joined_joined (frame : Frame) : frame.joined.joined = frame.joined := by
  cases frame <;> simp only [Frame.joined, joinedBack_joinedBack]

theorem Reading.joined_joined (reading : Reading) :
    reading.joined.joined = reading.joined := by
  simp only [Reading.joined, List.map_map, joinedBack_joinedBack, Reading.mk.injEq, and_true]
  exact List.map_congr_left fun frame _ => frame.joined_joined

variable {kinds : DirectiveKinds} {outer : Option String}

theorem countedArgument_joined (frames : List Frame) :
    countedArgument kinds outer (frames.map Frame.joined) =
      countedArgument kinds outer frames := by
  induction frames with
  | nil => rfl
  | cons frame rest ih =>
      cases frame <;> simp only [List.map_cons, Frame.joined, countedArgument, ih]

theorem joined_push (frames : List Frame) (node : Node) (nodes : List Node) :
    Reading.joined ⟨frames.map Frame.joined, node :: joinedBack nodes⟩ =
      Reading.joined ⟨frames, node :: nodes⟩ := by
  have frames := congrArg Reading.frames (Reading.joined_joined ⟨frames, nodes⟩)
  simp only [Reading.joined] at frames ⊢
  rw [frames, joinedBack_cons]

theorem continued_joined {reading other : Reading} (same : reading.joined = other.joined)
    (rest : List Char) :
    Except.map Step.joined (.ok (.continued reading rest) : Except Failure Step) =
      Except.map Step.joined (.ok (.continued other rest)) := by
  simp only [Except.map, Step.joined, same]

theorem nextBranch_joined (before : List Node) (argument kind : String)
    (branches : List (String × List Node)) (frames : List Frame) (input : List Char) :
    (nextBranch (joinedBack before) argument kind branches (frames.map Frame.joined)
        input).map Step.joined =
      (nextBranch before argument kind branches frames input).map Step.joined := by
  unfold nextBranch
  split
  · rfl
  · rename_i key rest _
    exact continued_joined
      (Reading.joined_joined ⟨.branch before argument kind branches key :: frames, []⟩) rest
  · exact continued_joined (joined_push frames (.message argument kind branches) before) _

theorem close_joined (reading : Reading) (input : List Char) :
    (close reading.joined input).map Step.joined = (close reading input).map Step.joined := by
  obtain ⟨frames, nodes⟩ := reading
  cases frames with
  | nil => simp only [close, Reading.joined, List.map_nil, messageOf_joinedBack]
  | cons frame frames =>
      cases frame with
      | branch before argument kind branches key =>
          simp only [close, Reading.joined, List.map_cons, Frame.joined, messageOf_joinedBack]
          split
          · rfl
          · exact nextBranch_joined ..
      | tag before name attributes =>
          simp only [close, Reading.joined, List.map_cons, Frame.joined, messageOf_joinedBack]
          split
          · rfl
          · exact continued_joined
              (joined_push frames (.tag name attributes (messageOf nodes)) before) _

theorem accept_joined (reading : Reading) (token : Token) (rest : List Char) :
    (accept kinds outer reading.joined token rest).map Step.joined =
      (accept kinds outer reading token rest).map Step.joined := by
  obtain ⟨frames, nodes⟩ := reading
  cases token with
  | text value => exact continued_joined (joined_push frames (.text value) nodes) rest
  | numberSign =>
      simp only [accept, Reading.joined, countedArgument_joined]
      exact continued_joined (joined_push frames _ nodes) rest
  | argument name kind style =>
      exact continued_joined (joined_push frames (.format name kind style) nodes) rest
  | branching name kind => exact nextBranch_joined ..
  | tag name attributes =>
      exact continued_joined (Reading.joined_joined ⟨.tag nodes name attributes :: frames, []⟩) rest

theorem step_joined (reading : Reading) (input : List Char) :
    (step kinds outer reading.joined input).map Step.joined =
      (step kinds outer reading input).map Step.joined := by
  unfold step
  split
  · rfl
  · exact close_joined reading input
  · exact accept_joined reading _ _

/-- The reader goes on from the outcome of a step. -/
def goOn (kinds : DirectiveKinds) (outer : Option String) :
    Except Failure Step → Except Failure (List Node × List Char)
  | .error failure => .error failure
  | .ok (.finished nodes rest) => .ok (nodes, rest)
  | .ok (.continued reading rest) => run kinds outer reading rest

theorem run_eq_goOn (reading : Reading) (input : List Char) :
    run kinds outer reading input = goOn kinds outer (step kinds outer reading input) := by
  cases stepped : step kinds outer reading input with
  | error failure => exact run_of_error stepped
  | ok next =>
      cases next with
      | continued next rest => exact run_of_continued stepped
      | finished nodes rest => exact run_of_finished stepped

theorem goOn_joined {stepped : Except Failure Step}
    (later : ∀ next rest, stepped = .ok (.continued next rest) →
      run kinds outer next.joined rest = run kinds outer next rest) :
    goOn kinds outer (stepped.map Step.joined) = goOn kinds outer stepped := by
  cases stepped with
  | error failure => rfl
  | ok next =>
      cases next with
      | continued next rest => exact later next rest rfl
      | finished nodes rest => rfl

/-- Joining the texts of a reading changes nothing of what is read from then on. -/
theorem run_joined (reading : Reading) (input : List Char) :
    run kinds outer reading.joined input = run kinds outer reading input := by
  rw [run_eq_goOn, run_eq_goOn,
    ← goOn_joined fun next rest found => run_joined next rest, step_joined,
    goOn_joined fun next rest found => run_joined next rest]
termination_by input.length
decreasing_by all_goals exact step_length_lt found

theorem run_of_joined {reading other : Reading} (same : reading.joined = other.joined)
    (input : List Char) : run kinds outer reading input = run kinds outer other input := by
  rw [← run_joined reading, same, run_joined other]

theorem run_of_token {frames : List Frame} {nodes : List Node} {token : Token}
    {input rest : List Char} (read : readToken kinds input = .ok (some (token, rest))) :
    run kinds outer ⟨frames, nodes⟩ input =
      goOn kinds outer (accept kinds outer ⟨frames, nodes⟩ token rest) := by
  rw [run_eq_goOn, step, read]

theorem readToken_of_ordinary {c : Char} {rest : List Char} (ordinary : isOrdinary c = true) :
    readToken kinds (c :: rest) =
      .ok (some (.text (String.ofList (c :: rest.takeWhile isOrdinary)),
        rest.dropWhile isOrdinary)) := by
  simp only [isOrdinary, List.mem_cons, List.not_mem_nil, or_false, not_or,
    decide_eq_true_eq] at ordinary
  obtain ⟨noOpened, noClosed, noAngle, noBackslash, noSign⟩ := ordinary
  simp only [readToken, noOpened, noClosed, noAngle, noBackslash, noSign, if_false]

theorem run_of_ordinary {c : Char} {rest : List Char} (ordinary : isOrdinary c = true)
    (frames : List Frame) (nodes : List Node) :
    run kinds outer ⟨frames, nodes⟩ (c :: rest) =
      run kinds outer ⟨frames, .text (String.ofList (c :: rest.takeWhile isOrdinary)) :: nodes⟩
        (rest.dropWhile isOrdinary) :=
  run_of_token (readToken_of_ordinary ordinary)

/-- A run of text may be read in parts. -/
theorem run_text {text rest : List Char} (ordinary : IsRun isOrdinary text)
    (frames : List Frame) (nodes : List Node) :
    run kinds outer ⟨frames, nodes⟩ (text ++ rest) =
      run kinds outer ⟨frames, .text (String.ofList text) :: nodes⟩ rest := by
  obtain ⟨first, more, rfl, start⟩ := ordinary.exists_cons
  have inside : ∀ c ∈ more, isOrdinary c = true :=
    fun c member => ordinary.2 c (List.mem_cons_of_mem _ member)
  rw [List.cons_append, run_of_ordinary start, List.takeWhile_append_of_pos inside,
    List.dropWhile_append_of_pos inside]
  cases rest with
  | nil => simp
  | cons next after =>
      cases continues : isOrdinary next with
      | false => simp [continues]
      | true =>
          -- one text is read where the grammar has two, and only joined are they the same
          rw [List.takeWhile_cons_of_pos continues, List.dropWhile_cons_of_pos continues,
            run_of_ordinary continues]
          apply run_of_joined
          simp only [Reading.joined, joinedBack_texts, ← String.ofList_append,
            List.cons_append]

end Pattern

end Parlance
