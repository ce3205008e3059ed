import Parlance.Proofs.Pattern.Positions
import Parlance.Proofs.Pattern.Preceding
import Parlance.Proofs.Pattern.Spelling

namespace Parlance.Pattern

open Parlance.Text

/-! # Keys and closing tags that are refused

A directive refuses a key that it has already, and a tag refuses the closing tag of another name.
Both are reported where the fault begins: at the key behind the blanks in front of it, and where the
name comes apart from the name of the open tag. What stands behind is never looked at.
-/

variable {kinds : DirectiveKinds}

theorem parse_of_failure {before rest : List Char} {cause : Cause} (nonempty : rest ≠ [])
    (failed : run kinds none ⟨[], []⟩ (before ++ rest) = .error ⟨cause, rest⟩) :
    parse kinds (String.ofList (before ++ rest)) =
      .error ⟨Position.after before, cause, false⟩ := by
  have placed := Error.ofFailure_append before ⟨cause, rest⟩
  rw [List.isEmpty_eq_false_iff.mpr nonempty] at placed
  simp only [parse, readPattern, readMessage, String.toList_ofList, failed, Except.mapError, placed]

section Keys

variable {scope : Option String} {written rest : List Char} {entries : List (String × List Node)}

theorem Word.isRun {isMember : Char → Bool} {input : List Char} {word : String}
    (named : Word isMember input word rest) : IsRun isMember word.toList := by
  obtain ⟨before, name, after, _, run, _, _, rfl⟩ := named
  rwa [String.toList_ofList]

theorem GuardedBranches.isRun_key :
    ∀ {scope : Option String} {written : List Char} {entries : List (String × List Node)},
      GuardedBranches kinds scope written entries →
        ∀ key ∈ Keyed.keys entries, IsRun isKeyChar key.toList
  | _, _, _, .nil => fun _ member => nomatch member
  | _, _, _, .cons keyed _ more => List.forall_mem_cons.mpr ⟨keyed.isRun, more.isRun_key⟩

theorem readBranch_of_repeated {used : List String} {key : String} {blanks : List Char}
    (blank : AllBlank blanks) (keyed : IsRun isKeyChar key.toList) (again : key ∈ used)
    (stops : Stops isKeyChar rest) :
    readBranch used (blanks ++ (key.toList ++ rest)) =
      .error ⟨.repeatedSelector, key.toList ++ rest⟩ := by
  have start : skipBlank (blanks ++ (key.toList ++ rest)) = key.toList ++ rest :=
    skipBlank_append blank (keyed.stops_isBlank not_isKeyChar_of_isBlank)
  simp only [readBranch, start, readRun?_append keyed stops, String.ofList_toList, again, if_true,
    fail]

/-- The branches in front are read, whatever they are. -/
theorem run_of_repeated {name kind key : String} {opening blanks : List Char}
    (opened : GuardedLexeme kinds opening (.branching name kind))
    (branches : GuardedBranches kinds (branchScope kinds none name kind) written entries)
    (distinct : (Keyed.keys entries).Nodup) (again : key ∈ Keyed.keys entries)
    (blank : AllBlank blanks) (stops : Stops isKeyChar rest) :
    run kinds none ⟨[], []⟩ (opening ++ (written ++ (blanks ++ (key.toList ++ rest)))) =
      .error ⟨.repeatedSelector, key.toList ++ rest⟩ := by
  have used : key ∈ Keyed.keys (Keyed.insertAll [] entries) :=
    Keyed.mem_keys_insertAll.mpr (Or.inr again)
  have through := @GuardedBranches.run kinds none _ _ _ branches [] name kind [] []
    (blanks ++ (key.toList ++ rest)) rfl (fun _ _ => List.not_mem_nil) distinct
  rw [run_of_lexeme (opened.lexeme _), accept, through, nextBranch,
    readBranch_of_repeated blank (branches.isRun_key key again) used stops, goOn]

/-- A key that a directive has already is refused where it begins, whatever stands behind it. -/
theorem parse_repeated_key {name kind key : String} {opening blanks : List Char}
    (opened : GuardedLexeme kinds opening (.branching name kind))
    (branches : GuardedBranches kinds (branchScope kinds none name kind) written entries)
    (distinct : (Keyed.keys entries).Nodup) (again : key ∈ Keyed.keys entries)
    (blank : AllBlank blanks) (stops : Stops isKeyChar rest) :
    let before := opening ++ (written ++ blanks)
    parse kinds (String.ofList (before ++ (key.toList ++ rest))) =
      .error ⟨Position.after before, .repeatedSelector, false⟩ := by
  intro before
  have nonempty : key.toList ++ rest ≠ [] :=
    List.append_ne_nil_of_left_ne_nil (branches.isRun_key key again).1 rest
  refine parse_of_failure nonempty ?_
  simp only [before, List.append_assoc]
  exact run_of_repeated opened branches distinct again blank stops

theorem parse_one_twice :
    parse ⟨(· == "plural"), (· == "plural")⟩ "\x7bn,plural,one\x7b\n#\x7d\n one+" =
      .error ⟨⟨3, 2⟩, .repeatedSelector, false⟩ := by
  let kinds : DirectiveKinds := ⟨(· == "plural"), (· == "plural")⟩
  have opened : GuardedLexeme kinds "\x7bn,plural,".toList (.branching "n" "plural") :=
    .braced (.branching (word_of_isRun (by decide +kernel : IsRun isNameChar "n".toList) _)
      (word_of_isRun (by decide +kernel : IsRun isNameChar "plural".toList) [',']) rfl)
  have newline : GuardedLexeme kinds ['\n'] (.text "\n") := .run (by decide)
  have one : GuardedBranches kinds (some "n") "one\x7b\n#\x7d".toList
      [("one", [.text "\n", .format "n" "count" none])] :=
    .cons (word_of_isRun (by decide +kernel : IsRun isKeyChar "one".toList) [])
      (.cons (.text newline) (.cons (.count .numberSign) .nil)) .nil
  have stops : Stops isKeyChar ['+'] := stops_cons (by decide +kernel)
  have blank : AllBlank ['\n', ' '] := by decide
  let before := "\x7bn,plural,".toList ++ ("one\x7b\n#\x7d".toList ++ ['\n', ' '])
  have refused : parse kinds (String.ofList (before ++ ("one".toList ++ ['+']))) =
      .error ⟨Position.after before, .repeatedSelector, false⟩ :=
    parse_repeated_key opened one (by decide) (by decide : "one" ∈ ["one"]) blank stops
  have place : Position.after before = ⟨3, 2⟩ := by decide +kernel
  have whole : String.ofList (before ++ ("one".toList ++ ['+'])) =
      "\x7bn,plural,one\x7b\n#\x7d\n one+" := by decide +kernel
  rwa [place, whole] at refused

end Keys

section ClosingTags

variable {name : String} {attributes : List (String × Option String)} {nodes : List Node}
  {opening text rest : List Char}

theorem GuardedLexeme.isTagChar_name (opened : GuardedLexeme kinds opening (.tag name attributes)) :
    ∀ c ∈ name.toList, isTagChar c = true := by
  cases opened with
  | braced lexeme =>
      rename_i inside
      generalize braced : '{' :: inside = input at lexeme
      cases lexeme with
      | tag => cases braced
  | tag letter more =>
      rw [String.toList_ofList]
      exact List.forall_mem_cons.mpr ⟨isTagChar_of_isAlpha letter, more⟩

/-- Characters of a class that a text begins with cannot go on where the class stops. -/
theorem prefix_of_prefix_append {isMember : Char → Bool} {run : List Char}
    (all : ∀ c ∈ run, isMember c = true) (stops : Stops isMember rest)
    (begins : run <+: text ++ rest) :
    run <+: text := by
  induction run generalizing text with
  | nil => exact List.nil_prefix
  | cons c more ih =>
      have members := List.forall_mem_cons.mp all
      cases text with
      | nil =>
          obtain ⟨after, split⟩ := begins
          have outside := stops c (by rw [← List.nil_append rest, ← split]; rfl)
          rw [members.1] at outside
          contradiction
      | cons d later =>
          obtain ⟨rfl, inside⟩ := List.cons_prefix_cons.mp begins
          exact List.cons_prefix_cons.mpr ⟨rfl, ih members.2 inside⟩

theorem readExactly?_eq_none {expected input : List Char} (apart : ¬ expected <+: input) :
    readExactly? expected input = none := by
  cases found : readExactly? expected input with
  | none => rfl
  | some behind => exact absurd ⟨behind, (readExactly?_eq_some found).symm⟩ apart

theorem readClosingName_of_apart {input : List Char} (apart : ¬ name.toList <+: input) :
    readClosingName name input = .error ⟨.closingTagName, input⟩ := by
  simp only [readClosingName, readExactly?_eq_none apart, fail]

theorem readClosingName_of_longer {c : Char} {more : List Char} (longer : isTagChar c = true) :
    readClosingName name (name.toList ++ c :: more) = .error ⟨.closingTagName, c :: more⟩ := by
  simp only [readClosingName, readExactly?_append, beginsWithTagChar, longer, if_true, fail]

/-- The reader comes to the closing tag behind the message of a tag. -/
theorem run_of_closingName {failure : Failure} {input : List Char}
    (opened : GuardedLexeme kinds opening (.tag name attributes))
    (content : Guarded kinds none text nodes)
    (failed : readClosingName name input = .error failure) :
    run kinds none ⟨[], []⟩ (opening ++ (text ++ '<' :: '/' :: input)) = .error failure := by
  obtain ⟨pieces, written, _⟩ := content
  rw [run_of_lexeme (opened.lexeme _), accept, goOn,
    (written.pieces _).run [.tag [] name attributes] [] rfl, run_of_end rfl]
  simp only [close, readClosingTag, failed, goOn]

theorem Guarded.readPattern {message : List Node} (guarded : Guarded kinds none text message)
    (rest : List Char) :
    readPattern kinds (text ++ rest) =
      (readPattern kinds rest).map (Node.appendJoined message) := by
  obtain ⟨pieces, written, rfl⟩ := guarded
  have read := (written.pieces rest).run [] [] (show countedArgument kinds none [] = none from rfl)
  rw [List.append_nil] at read
  rw [readPattern_of_front read, messageOf, List.reverse_reverse]

/-- A name that the name of the tag does not begin is refused where it begins. -/
theorem parse_of_name_apart {other : String}
    (opened : GuardedLexeme kinds opening (.tag name attributes))
    (content : Guarded kinds none text nodes) (named : IsRun isTagChar other.toList)
    (stops : Stops isTagChar rest) (apart : ¬ name.toList <+: other.toList) :
    let before := opening ++ (text ++ ['<', '/'])
    parse kinds (String.ofList (before ++ (other.toList ++ rest))) =
      .error ⟨Position.after before, .closingTagName, false⟩ := by
  intro before
  refine parse_of_failure (List.append_ne_nil_of_left_ne_nil named.1 rest) ?_
  simp only [before, List.append_assoc, List.cons_append, List.nil_append]
  exact run_of_closingName opened content (readClosingName_of_apart fun begins =>
    apart (prefix_of_prefix_append opened.isTagChar_name stops begins))

/-- A name that goes on from the name of the tag is refused where it goes on. -/
theorem parse_of_name_longer {other : String}
    (opened : GuardedLexeme kinds opening (.tag name attributes))
    (content : Guarded kinds none text nodes) (named : IsRun isTagChar other.toList)
    (different : other ≠ name) (begins : name.toList <+: other.toList) :
    let before := opening ++ (text ++ ['<', '/'])
    parse kinds (String.ofList (before ++ (other.toList ++ rest))) =
      .error ⟨Position.after (before ++ name.toList), .closingTagName, false⟩ := by
  intro before
  obtain ⟨behind, split⟩ := begins
  cases behind with
  | nil =>
      rw [List.append_nil] at split
      exact absurd (String.toList_inj.mp split).symm different
  | cons c more =>
      have longer : isTagChar c = true := named.2 c (by simp [← split])
      have refused := @parse_of_failure kinds (before ++ name.toList) (c :: (more ++ rest))
        .closingTagName (List.cons_ne_nil _ _) (by
          simp only [before, List.append_assoc, List.cons_append, List.nil_append]
          exact run_of_closingName opened content (readClosingName_of_longer longer))
      rw [← split]
      simpa only [List.append_assoc, List.cons_append] using refused

/-- A tag is closed by its own name only. The closing tag of another name is refused where that name
begins, or behind the name of the tag if the other name goes on from it. Behind its own name the tag
is closed, and what it has is what stands inside it. -/
theorem parse_closing_name (opened : GuardedLexeme kinds opening (.tag name attributes))
    (content : Guarded kinds none text nodes) :
    (∀ (other : String) (rest : List Char), IsRun isTagChar other.toList → other ≠ name →
      Stops isTagChar rest →
      let before := opening ++ (text ++ ['<', '/'])
      let pattern := String.ofList (before ++ (other.toList ++ rest))
      (¬ name.toList <+: other.toList →
        parse kinds pattern = .error ⟨Position.after before, .closingTagName, false⟩) ∧
      (name.toList <+: other.toList →
        parse kinds pattern =
          .error ⟨Position.after (before ++ name.toList), .closingTagName, false⟩)) ∧
    ∀ blanks : List Char, AllBlank blanks →
      let closed := opening ++ (text ++ '<' :: '/' :: (name.toList ++ (blanks ++ ['>'])))
      parse kinds (String.ofList closed) = .ok [.tag name attributes nodes] ∧
      ∀ rest, readPattern kinds (closed ++ rest) =
        (readPattern kinds rest).map (.tag name attributes nodes :: ·) := by
  constructor
  · intro other rest named different stops before pattern
    exact ⟨parse_of_name_apart opened content named stops,
      parse_of_name_longer opened content named different⟩
  · intro blanks blank closed
    obtain ⟨pieces, written, rfl⟩ := content
    have guarded : Guarded kinds none closed [.tag name attributes (Node.joinTexts pieces)] :=
      (GuardedPiece.tag opened written blank).guarded
    exact ⟨parse_of_spells guarded.spells, guarded.readPattern⟩

theorem parse_tag_names :
    parse ⟨(· == "plural"), (· == "plural")⟩ "<a>\n\\<</ab>" =
        .error ⟨⟨2, 6⟩, .closingTagName, false⟩ ∧
      parse ⟨(· == "plural"), (· == "plural")⟩ "<a>\n\\<</b>" =
        .error ⟨⟨2, 5⟩, .closingTagName, false⟩ ∧
      parse ⟨(· == "plural"), (· == "plural")⟩ "<a>\n\\<</a >" =
        .ok [.tag "a" [] [.text "\n<"]] := by
  let kinds : DirectiveKinds := ⟨(· == "plural"), (· == "plural")⟩
  have opened : GuardedLexeme kinds "<a>".toList (.tag "a" []) :=
    .tag (by decide : 'a'.isAlpha = true) (by simp : ∀ c ∈ [], isTagChar c = true) .nil
      allBlank_nil
  have newline : GuardedLexeme kinds ['\n'] (.text "\n") := .run (by decide)
  have angle : GuardedLexeme kinds ['\\', '<'] (.text "<") := .special (by decide)
  have content : Guarded kinds none "\n\\<".toList [.text "\n<"] :=
    ⟨_, .cons (.text newline) (.cons (.text angle) .nil), by decide⟩
  have ⟨refused, closed⟩ := parse_closing_name opened content
  have stops : Stops isTagChar ['>'] := stops_cons (by decide +kernel)
  have longer := (refused "ab" ['>'] (by decide +kernel) (by decide) stops).2 (by decide)
  have apart := (refused "b" ['>'] (by decide +kernel) (by decide) stops).1 (by decide)
  have same := (closed [' '] (by decide)).1
  exact ⟨longer, apart, same⟩

end ClosingTags

end Parlance.Pattern
