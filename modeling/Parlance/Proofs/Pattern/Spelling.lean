import Parlance.Proofs.Pattern.Guarded

namespace Parlance.Pattern

open Parlance.Text

/-! # Messages that have a spelling

A message is well formed if its names, keys, styles and values can be written and no two of its
texts are adjacent. Every well-formed message is spelled by the pattern that is printed for it,
with a backslash in front of every special character.
-/

def IsStyle (style : String) : Prop :=
  Trimmed style.toList ∧ ∀ c ∈ style.toList, isBrace c = false

def IsTagName (name : String) : Prop :=
  ∃ first more, name = String.ofList (first :: more) ∧ first.isAlpha = true ∧
    ∀ c ∈ more, isTagChar c = true

/-- One of the two quotes does not occur in the value. -/
def IsAttribute (entry : String × Option String) : Prop :=
  IsRun isTagChar entry.1.toList ∧
    ∀ value ∈ entry.2, '"' ∉ value.toList ∨ '\'' ∉ value.toList

instance (style : String) : Decidable (IsStyle style) :=
  decidable_of_iff (Trimmed style.toList ∧ style.toList.any isBrace = false) (by simp [IsStyle])

instance (entry : String × Option String) : Decidable (IsAttribute entry) :=
  inferInstanceAs (Decidable (IsRun isTagChar entry.1.toList ∧
    ∀ value ∈ entry.2, '"' ∉ value.toList ∨ '\'' ∉ value.toList))

def isText : Node → Bool
  | .text _ => true
  | _ => false

def beginsWithText (nodes : List Node) : Bool :=
  nodes.head?.any isText

mutual

/-- A node that can be written where a number sign stands for `scope`. -/
inductive WellFormedNode (kinds : DirectiveKinds) : Option String → Node → Prop
  | text (nonempty : value ≠ "") : WellFormedNode kinds scope (.text value)
  | value (named : IsRun isNameChar argument.toList) :
      WellFormedNode kinds scope (.format argument valueKind none)
  | count (named : IsRun isNameChar argument.toList) :
      WellFormedNode kinds (some argument) (.format argument countKind none)
  | format (named : IsRun isNameChar argument.toList) (typed : IsRun isNameChar kind.toList)
      (plain : kinds.isBranching kind = false) (styled : ∀ written ∈ style, IsStyle written) :
      WellFormedNode kinds scope (.format argument kind style)
  | message (named : IsRun isNameChar argument.toList) (typed : IsRun isNameChar kind.toList)
      (branching : kinds.isBranching kind = true) (nonempty : branches ≠ [])
      (sorted : Keyed.Sorted branches)
      (each : WellFormedBranches kinds (branchScope kinds scope argument kind) branches) :
      WellFormedNode kinds scope (.message argument kind branches)
  | tag (named : IsTagName name) (sorted : Keyed.Sorted attributes)
      (each : ∀ entry ∈ attributes, IsAttribute entry)
      (children : WellFormed kinds scope nodes) :
      WellFormedNode kinds scope (.tag name attributes nodes)

/-- A message whose nodes can be written and whose texts are apart. -/
inductive WellFormed (kinds : DirectiveKinds) : Option String → List Node → Prop
  | nil : WellFormed kinds scope []
  | cons (first : WellFormedNode kinds scope node)
      (apart : isText node = true → beginsWithText nodes = false)
      (more : WellFormed kinds scope nodes) : WellFormed kinds scope (node :: nodes)

inductive WellFormedBranches (kinds : DirectiveKinds) :
    Option String → List (String × List Node) → Prop
  | nil : WellFormedBranches kinds scope []
  | cons (keyed : IsRun isKeyChar key.toList) (message : WellFormed kinds scope nodes)
      (more : WellFormedBranches kinds scope branches) :
      WellFormedBranches kinds scope ((key, nodes) :: branches)

end

section Printing

def printChar (c : Char) : List Char :=
  if isSpecial c then ['\\', c] else [c]

def printStyle : Option String → List Char
  | none => []
  | some style => ',' :: style.toList

/-- A directive of a kind with branches can only be written as a number sign. -/
def printFormat (kinds : DirectiveKinds) (argument kind : String) (style : Option String) :
    List Char :=
  if kind = valueKind ∧ style = none then '{' :: (argument.toList ++ ['}'])
  else if kinds.isBranching kind then ['#']
  else '{' :: (argument.toList ++ ',' :: (kind.toList ++ (printStyle style ++ ['}'])))

def printValue : Option String → List Char
  | none => []
  | some value =>
    let quote := if '"' ∈ value.toList then '\'' else '"'
    '=' :: quote :: (value.toList ++ [quote])

def printAttributes : List (String × Option String) → List Char
  | [] => []
  | (name, value) :: rest => ' ' :: (name.toList ++ (printValue value ++ printAttributes rest))

mutual

def printNode (kinds : DirectiveKinds) : Node → List Char
  | .text value => value.toList.flatMap printChar
  | .format argument kind style => printFormat kinds argument kind style
  | .message argument kind branches =>
    '{' :: (argument.toList ++ ',' :: (kind.toList ++ ',' :: (printBranches kinds branches ++ ['}'])))
  | .tag name attributes children =>
    '<' :: (name.toList ++ (printAttributes attributes ++ '>' :: (printMessage kinds children ++
      '<' :: '/' :: (name.toList ++ ['>']))))

def printMessage (kinds : DirectiveKinds) : List Node → List Char
  | [] => []
  | node :: rest => printNode kinds node ++ printMessage kinds rest

def printBranches (kinds : DirectiveKinds) : List (String × List Node) → List Char
  | [] => []
  | (key, nodes) :: rest =>
    key.toList ++ '{' :: (printMessage kinds nodes ++ '}' :: printBranches kinds rest)

end

/-- A pattern that spells the message. -/
def print (kinds : DirectiveKinds) (nodes : List Node) : String :=
  String.ofList (printMessage kinds nodes)

end Printing

section Derivations

variable {kinds : DirectiveKinds} {scope : Option String}

theorem Pieces.append {input middle rest : List Char} {nodes more : List Node} :
    Pieces kinds scope input nodes middle → Pieces kinds scope middle more rest →
      Pieces kinds scope input (nodes ++ more) rest
  | .nil, second => second
  | .cons node later, second => .cons node (later.append second)

theorem isOrdinary_or_special (c : Char) : isSpecial c = true ∨ isOrdinary c = true := by
  by_cases special : isSpecial c = true
  · exact Or.inl special
  · right
    simp only [isSpecial, List.mem_cons, List.not_mem_nil, or_false, decide_eq_true_eq,
      not_or] at special
    simp [isOrdinary, special]

theorem guarded_of_printChar (c : Char) :
    GuardedLexeme kinds (printChar c) (.text (String.singleton c)) := by
  unfold printChar
  split
  · rename_i special
    exact .special special
  · rename_i plain
    have ordinary := (isOrdinary_or_special c).resolve_left plain
    exact .run ⟨List.cons_ne_nil _ _, fun d member => List.mem_singleton.mp member ▸ ordinary⟩

theorem guarded_of_printChars (text : List Char) :
    GuardedPieces kinds scope (text.flatMap printChar)
      (text.map fun c => .text (String.singleton c)) := by
  induction text with
  | nil => exact .nil
  | cons c more ih =>
      rw [List.flatMap_cons]
      exact .cons (.text (guarded_of_printChar c)) ih

theorem joinTexts_singletons (first : Char) (more : List Char) :
    Node.joinTexts ((first :: more).map fun c => .text (String.singleton c)) =
      [.text (String.ofList (first :: more))] := by
  induction more generalizing first with
  | nil => rfl
  | cons second rest ih =>
      have joined : String.singleton first ++ String.ofList (second :: rest) =
          String.ofList (first :: second :: rest) := by
        apply String.toList_inj.mp
        simp
      rw [List.map_cons, Node.joinTexts, ih, Node.consJoined, joined]

theorem word_of_isRun {isMember : Char → Bool} {name : String}
    (run : IsRun isMember name.toList) (rest : List Char) :
    Word isMember (name.toList ++ rest) name rest := by
  have word := word_behind_blanks allBlank_nil run rest
  rwa [String.ofList_toList] at word

theorem styleText_of_printStyle {style : Option String}
    (styled : ∀ written ∈ style, IsStyle written) (rest : List Char) :
    StyleText (printStyle style ++ rest) style rest := by
  cases style with
  | none => exact .absent
  | some written =>
      obtain ⟨trimmed, noBrace⟩ := styled written rfl
      have text := @StyleText.text [] written.toList [] rest allBlank_nil trimmed noBrace
        allBlank_nil
      rwa [String.ofList_toList] at text

theorem exists_printValue {value : String}
    (quotable : '"' ∉ value.toList ∨ '\'' ∉ value.toList) :
    ∃ quote, isQuote quote = true ∧ quote ∉ value.toList ∧
      printValue (some value) = '=' :: quote :: (value.toList ++ [quote]) := by
  simp only [printValue]
  split
  · rename_i present
    exact ⟨'\'', by decide, quotable.resolve_left (not_not_intro present), rfl⟩
  · rename_i inside
    exact ⟨'"', by decide, inside, rfl⟩

theorem guarded_of_printAttributes {attributes : List (String × Option String)}
    (each : ∀ entry ∈ attributes, IsAttribute entry) :
    GuardedAttributes (printAttributes attributes) attributes := by
  induction attributes with
  | nil => exact .nil
  | cons entry more ih =>
      obtain ⟨name, value⟩ := entry
      have later := ih fun entry member => each entry (List.mem_cons_of_mem _ member)
      obtain ⟨named, quotable⟩ := each (name, value) List.mem_cons_self
      have blank : IsRun isBlank [' '] := by decide
      simp only [printAttributes]
      cases value with
      | none =>
          have written := GuardedAttributes.bare blank named later
          rwa [String.ofList_toList] at written
      | some value =>
          obtain ⟨quote, isQuote, inside, printed⟩ := exists_printValue (quotable value rfl)
          have written := GuardedAttributes.quoted blank named allBlank_nil allBlank_nil isQuote
            inside later
          rw [String.ofList_toList, String.ofList_toList] at written
          simpa [printed] using written

theorem guarded_of_printFormat {argument kind : String} {style : Option String}
    (named : IsRun isNameChar argument.toList) (typed : IsRun isNameChar kind.toList)
    (plain : kinds.isBranching kind = false) (styled : ∀ written ∈ style, IsStyle written) :
    GuardedPiece kinds scope (printFormat kinds argument kind style)
      (.format argument kind style) := by
  unfold printFormat
  split
  · rename_i value
    obtain ⟨rfl, rfl⟩ := value
    exact .format (.braced (.value (word_of_isRun named _)))
  · rw [if_neg (Bool.eq_false_iff.mp plain)]
    exact .format (.braced (.format (word_of_isRun named _) (word_of_isRun typed _) plain
      (styleText_of_printStyle styled _)))

theorem guarded_of_printCount {argument : String} (named : IsRun isNameChar argument.toList) :
    GuardedPiece kinds (some argument) (printFormat kinds argument countKind none)
      (.format argument countKind none) := by
  cases branching : kinds.isBranching countKind with
  | true =>
      have noValue : ¬ (countKind = valueKind ∧ (none : Option String) = none) := by decide
      rw [printFormat, if_neg noValue, if_pos branching]
      exact .count .numberSign
  | false =>
      have typed : IsRun isNameChar countKind.toList := by decide +kernel
      exact guarded_of_printFormat named typed branching (by simp)

theorem consJoined_of_apart {node : Node} {nodes : List Node}
    (apart : isText node = true → beginsWithText nodes = false) :
    Node.consJoined node nodes = node :: nodes := by
  fun_cases Node.consJoined node nodes with
  | case1 first second rest => exact absurd (apart rfl) (by simp [beginsWithText, isText])
  | case2 => rfl

mutual

theorem WellFormedNode.guarded {node : Node} :
    ∀ {scope : Option String}, WellFormedNode kinds scope node →
      Guarded kinds scope (printNode kinds node) [node]
  | _, .text nonempty => by
      rename_i value
      refine ⟨_, guarded_of_printChars value.toList, ?_⟩
      cases split : value.toList with
      | nil => exact absurd (String.toList_eq_nil_iff.mp split) nonempty
      | cons first more =>
          rw [joinTexts_singletons, ← split, String.ofList_toList]
  | scope, .value named => by
      have value : GuardedPiece kinds scope _ _ :=
        .format (.braced (.value (word_of_isRun named ['}'])))
      simpa [printNode, printFormat] using value.guarded
  | _, .count named => (guarded_of_printCount named).guarded
  | _, .format named typed plain styled =>
      (guarded_of_printFormat named typed plain styled).guarded
  | _, .message named typed branching nonempty sorted each => by
      have opening := GuardedLexeme.braced
        (.branching (word_of_isRun named _) (word_of_isRun typed [',']) branching)
      have piece := GuardedPiece.message opening each.guarded nonempty
        (Keyed.nodup_keys_of_sorted sorted) allBlank_nil
      rw [Keyed.ofList_of_sorted sorted] at piece
      simpa [printNode] using piece.guarded
  | _, .tag named sorted each children => by
      obtain ⟨first, more, rfl, letter, inside⟩ := named
      obtain ⟨pieces, written, joined⟩ := children.guarded
      have opening : GuardedLexeme kinds _ _ :=
        .tag letter inside (guarded_of_printAttributes each) allBlank_nil
      have piece := GuardedPiece.tag opening written allBlank_nil
      rw [Keyed.ofList_of_sorted sorted, joined] at piece
      simpa [printNode] using piece.guarded

/-- A well-formed message is spelled by the guarded text that is printed for it. -/
theorem WellFormed.guarded {message : List Node} :
    ∀ {scope : Option String}, WellFormed kinds scope message →
      Guarded kinds scope (printMessage kinds message) message
  | _, .nil => ⟨[], .nil, rfl⟩
  | _, .cons first apart more => by
      rename_i node nodes
      obtain ⟨start, written, joinedStart⟩ := first.guarded
      obtain ⟨after, writtenAfter, joinedAfter⟩ := more.guarded
      refine ⟨start ++ after, written.append writtenAfter, ?_⟩
      calc
        Node.joinTexts (start ++ after)
            = Node.joinTexts (Node.joinTexts start ++ after) :=
              (Node.joinTexts_joinTexts_append start after).symm
        _ = Node.consJoined node nodes := by
              rw [joinedStart, List.cons_append, List.nil_append, Node.joinTexts, joinedAfter]
        _ = node :: nodes := consJoined_of_apart apart

theorem WellFormedBranches.guarded {entries : List (String × List Node)} :
    ∀ {scope : Option String}, WellFormedBranches kinds scope entries →
      GuardedBranches kinds scope (printBranches kinds entries) entries
  | _, .nil => .nil
  | _, .cons keyed message more => by
      obtain ⟨pieces, written, joined⟩ := message.guarded
      have branch := GuardedBranches.cons (word_of_isRun keyed []) written more.guarded
      rw [joined] at branch
      simpa [printBranches] using branch

end

theorem spells_print {nodes : List Node} (wellFormed : WellFormed kinds none nodes) :
    Spells kinds (print kinds nodes) nodes :=
  wellFormed.guarded.spells

/-- A well-formed message has a spelling, and every spelling of it is read as that message. -/
theorem parse_of_spelling {nodes : List Node} (wellFormed : WellFormed kinds none nodes) :
    Spells kinds (print kinds nodes) nodes ∧
      ∀ pattern, Spells kinds pattern nodes → parse kinds pattern = .ok nodes :=
  ⟨spells_print wellFormed, fun _ spelled => parse_of_spells spelled⟩

end Derivations

section Example

def itemKinds : DirectiveKinds :=
  ⟨fun kind => kind ∈ ["plural", "select"], fun kind => kind = "plural"⟩

def itemMessage : List Node := [
  .text "<#>",
  .message "n" "plural" [
    ("=0", [.tag "b" [("title", some "\"")] [.format "n" "count" none]]),
    ("other", [.text "\\", .format "day" "date" (some "d")])]]

theorem itemMessage_wellFormed : WellFormed itemKinds none itemMessage := by
  have tagged : IsTagName "b" := ⟨'b', [], by decide, by decide, by simp⟩
  have children : WellFormed itemKinds (some "n") [.format "n" "count" none] :=
    .cons (.count (by decide +kernel)) (by decide) .nil
  have zero : WellFormed itemKinds (some "n")
      [.tag "b" [("title", some "\"")] [.format "n" "count" none]] :=
    .cons (.tag tagged (by decide) (by decide +kernel) children) (by decide) .nil
  have date : WellFormedNode itemKinds (some "n") (.format "day" "date" (some "d")) :=
    .format (by decide +kernel) (by decide +kernel) (by decide) (by decide)
  have other : WellFormed itemKinds (some "n")
      [.text "\\", .format "day" "date" (some "d")] :=
    .cons (.text (by decide)) (by decide) (.cons date (by decide) .nil)
  have branches := WellFormedBranches.cons (by decide +kernel : IsRun isKeyChar "=0".toList) zero
    (.cons (by decide +kernel : IsRun isKeyChar "other".toList) other .nil)
  exact .cons (.text (by decide)) (by decide) (.cons (.message (by decide +kernel)
    (by decide +kernel) (by decide) (by decide) (by decide) branches) (by decide) .nil)

theorem parse_itemMessage :
    print itemKinds itemMessage =
        "\\<\\#\\>\x7bn,plural,=0\x7b<b title='\"'>\x7bn,count\x7d</b>\x7d" ++
          "other\x7b\\\\\x7bday,date,d\x7d\x7d\x7d" ∧
      parse itemKinds (print itemKinds itemMessage) = .ok itemMessage := by
  have ⟨spelled, read⟩ := parse_of_spelling itemMessage_wellFormed
  exact ⟨by decide +kernel, read _ spelled⟩

end Example

end Parlance.Pattern
