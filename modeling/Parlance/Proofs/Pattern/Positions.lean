import Mathlib.Data.List.Induction
import Parlance.Pattern.Failure

namespace Parlance.Pattern

/-! # Positions

The place behind a text is on the line after its last newline, and in the column after what follows
that newline. Every character moves the position on, so no two places of a text have the same one.

The position of a place can be found by offsets in bytes as well: the newlines in front of the
place are counted, and then the characters between the last of them and the place. All offsets that
this takes lie between two characters, and the position is that of a walk through the characters.
-/

namespace Position

theorem after_append (text : List Char) (c : Char) : after (text ++ [c]) = (after text).advance c := by
  rw [after, List.foldl_append]
  rfl

theorem line_after (text : List Char) : (after text).line = 1 + text.count '\n' := by
  induction text using List.reverseRecOn with
  | nil => rfl
  | append_singleton text c ih =>
      rw [after_append, advance, List.count_append]
      by_cases newline : c = '\n'
      · subst newline
        simp only [if_true, ih, List.count_singleton_self]
        omega
      · simp [newline, ih]

theorem column_after (text : List Char) :
    (after text).column = 1 + (text.reverse.takeWhile (· != '\n')).length := by
  induction text using List.reverseRecOn with
  | nil => rfl
  | append_singleton text c ih =>
      rw [after_append, advance, List.reverse_append]
      by_cases newline : c = '\n'
      · subst newline
        simp
      · simp [newline, ih]
        omega

theorem ofRest_append (text rest : List Char) : ofRest (text ++ rest) rest = after text := by
  rw [ofRest, List.length_append, Nat.add_sub_cancel, List.take_left]

/-- On an earlier line, or further to the left on the same line. -/
def Precedes (first second : Position) : Prop :=
  first.line < second.line ∨ first.line = second.line ∧ first.column < second.column

theorem Precedes.trans {first second third : Position} (before : first.Precedes second)
    (behind : second.Precedes third) : first.Precedes third := by
  unfold Precedes at *
  omega

theorem not_precedes_self (position : Position) : ¬ position.Precedes position := by
  unfold Precedes
  omega

theorem precedes_advance (position : Position) (c : Char) :
    position.Precedes (position.advance c) := by
  unfold advance
  split
  · exact Or.inl (Nat.lt_succ_self _)
  · exact Or.inr ⟨rfl, Nat.lt_succ_self _⟩

theorem precedes_foldl_advance (position : Position) (c : Char) (text : List Char) :
    position.Precedes ((c :: text).foldl advance position) := by
  induction text generalizing position c with
  | nil => exact precedes_advance position c
  | cons next text ih => exact (precedes_advance position c).trans (ih (position.advance c) next)

theorem after_precedes (text : List Char) {more : List Char} (nonempty : more ≠ []) :
    (after text).Precedes (after (text ++ more)) := by
  cases more with
  | nil => contradiction
  | cons c more =>
      have moved : after (text ++ c :: more) = (c :: more).foldl advance (after text) :=
        List.foldl_append
      rw [moved]
      exact precedes_foldl_advance (after text) c more

section Ends

variable {input earlier later : List Char}

theorem ofRest_precedes (longer : later.length < earlier.length) (first : earlier <:+ input)
    (second : later <:+ input) : (ofRest input earlier).Precedes (ofRest input later) := by
  obtain ⟨between, rfl⟩ := List.suffix_of_suffix_length_le second first (Nat.le_of_lt longer)
  obtain ⟨text, rfl⟩ := first
  have nonempty : between ≠ [] := by
    rintro rfl
    exact Nat.lt_irrefl _ longer
  rw [ofRest_append, ← List.append_assoc, ofRest_append]
  exact after_precedes text nonempty

theorem eq_of_ofRest_eq (same : ofRest input earlier = ofRest input later)
    (first : earlier <:+ input) (second : later <:+ input) : earlier = later := by
  rcases Nat.lt_trichotomy earlier.length later.length with shorter | equal | longer
  · have precedes := ofRest_precedes shorter second first
    rw [same] at precedes
    exact absurd precedes (not_precedes_self _)
  · exact (List.suffix_of_suffix_length_le first second (Nat.le_of_eq equal)).eq_of_length equal
  · have precedes := ofRest_precedes longer first second
    rw [same] at precedes
    exact absurd precedes (not_precedes_self _)

end Ends

section Bytes

/-- The two parts of a text at an offset in bytes, unless the offset lies inside of a character. -/
def partsAt? (text : String) (offset : String.Pos.Raw) : Option (String × String) :=
  if valid : offset.IsValid text then
    let place := text.pos offset valid
    some ((text.sliceTo place).copy, (text.sliceFrom place).copy)
  else none

/-- The offset in bytes of the last newline. -/
def lastNewline? (text : String) : Option String.Pos.Raw :=
  match text.toList.reverse.dropWhile (· != '\n') with
  | [] => none
  | _ :: before => some (String.ofList before.reverse).rawEndPos

/-- The column behind a text: the characters behind its last newline are counted. -/
def columnBehind? (text : String) : Option Nat :=
  match lastNewline? text with
  | none => some (1 + text.length)
  | some newline => (partsAt? text ⟨newline.byteIdx + 1⟩).map (1 + ·.2.length)

/-- The place where `rest` begins in `pattern`, by the sizes of the two texts in bytes. -/
def ofBytes? (pattern rest : String) : Option Position :=
  (partsAt? pattern ⟨pattern.utf8ByteSize - rest.utf8ByteSize⟩).bind fun parts =>
    (columnBehind? parts.1).map (⟨1 + parts.1.toList.count '\n', ·⟩)

theorem partsAt?_append (front rest : String) :
    partsAt? (front ++ rest) front.rawEndPos = some (front, rest) := by
  have valid : front.rawEndPos.IsValid (front ++ rest) :=
    String.Pos.Raw.isValid_iff_exists_append.mpr ⟨front, rest, rfl, rfl⟩
  have splits : ((front ++ rest).pos front.rawEndPos valid).Splits front rest :=
    String.Pos.splits_append_rawEndPos
  simp only [partsAt?, valid, dite_true, splits.copy_sliceTo_eq, splits.copy_sliceFrom_eq]

/-- A text has no newline, or it is parted by the newline that is the last one. -/
theorem lastNewline?_cases (text : String) :
    (lastNewline? text = none ∧ (text.toList.reverse.takeWhile (· != '\n')).length = text.length) ∨
    ∃ front line : String, text = front ++ "\n" ++ line ∧
      lastNewline? text = some front.rawEndPos ∧
      (text.toList.reverse.takeWhile (· != '\n')).length = line.length := by
  have parts : text.toList.reverse.takeWhile (· != '\n') ++
      text.toList.reverse.dropWhile (· != '\n') = text.toList.reverse :=
    List.takeWhile_append_dropWhile
  unfold lastNewline?
  cases behind : text.toList.reverse.dropWhile (· != '\n') with
  | nil =>
      rw [behind, List.append_nil] at parts
      left
      rw [parts, List.length_reverse, String.length_toList]
      exact ⟨rfl, rfl⟩
  | cons c before =>
      have newline : c = '\n' := by
        have outside := List.head?_dropWhile_not (· != '\n') text.toList.reverse
        rw [behind] at outside
        simpa using outside
      rw [behind, newline] at parts
      generalize text.toList.reverse.takeWhile (· != '\n') = line at parts ⊢
      have whole : before.reverse ++ ['\n'] ++ line.reverse = text.toList := by
        rw [← List.reverse_cons, ← List.reverse_append, parts, List.reverse_reverse]
      right
      refine ⟨String.ofList before.reverse, String.ofList line.reverse, ?_, rfl, ?_⟩
      · apply String.toList_injective
        simp only [String.toList_append, String.toList_ofList, ← whole]
        rfl
      · rw [String.length_ofList, List.length_reverse]

theorem columnBehind?_eq (text : String) :
    columnBehind? text = some (after text.toList).column := by
  rw [column_after, columnBehind?]
  rcases lastNewline?_cases text with ⟨missing, size⟩ | ⟨front, line, whole, found, size⟩
  · rw [missing, size]
  · have offset : (⟨front.rawEndPos.byteIdx + 1⟩ : String.Pos.Raw) = (front ++ "\n").rawEndPos := by
      rw [String.Pos.Raw.ext_iff, String.byteIdx_rawEndPos, String.byteIdx_rawEndPos,
        String.utf8ByteSize_append]
      rfl
    have parts := partsAt?_append (front ++ "\n") line
    rw [← offset, ← whole] at parts
    simp only [found, parts, Option.map_some, size]

/-- By bytes and by characters a place has the same position. -/
theorem ofBytes?_append (front rest : String) :
    ofBytes? (front ++ rest) rest = some (after front.toList) := by
  have offset : (⟨(front ++ rest).utf8ByteSize - rest.utf8ByteSize⟩ : String.Pos.Raw) =
      front.rawEndPos := by
    rw [String.utf8ByteSize_append, Nat.add_sub_cancel]
    rfl
  simp only [ofBytes?, offset, partsAt?_append, Option.bind_some, columnBehind?_eq,
    Option.map_some, ← line_after]

end Bytes

end Position

/-- The error that is reported for a failure, in terms of the text in front of the place. -/
theorem Error.ofFailure_append (text : List Char) (failure : Failure) :
    Error.ofFailure (text ++ failure.rest) failure =
      ⟨Position.after text, failure.cause, failure.rest.isEmpty⟩ := by
  rw [Error.ofFailure, Position.ofRest_append]

end Parlance.Pattern
