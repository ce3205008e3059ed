import Parlance.Proofs.Text.Classes

namespace Parlance.Pattern

open Parlance.Text

/-! # Runs and blanks

What the readers of runs and blanks do, said of the texts in front of the rest: a run ends
where the class ends, and blanks end before the first character that is none.
-/

/-- A text of at least one character, all of a class. -/
def IsRun (isMember : Char → Bool) (text : List Char) : Prop :=
  text ≠ [] ∧ ∀ c ∈ text, isMember c = true

def AllBlank (text : List Char) : Prop :=
  ∀ c ∈ text, isBlank c = true

/-- The text does not begin with a character of the class. -/
def Stops (isMember : Char → Bool) (text : List Char) : Prop :=
  ∀ c ∈ text.head?, isMember c = false

/-- A text that is not empty and has no blank at its two ends. -/
def Trimmed (text : List Char) : Prop :=
  text ≠ [] ∧ Stops isBlank text ∧ Stops isBlank text.reverse

theorem allBlank_nil : AllBlank [] :=
  fun _ member => absurd member List.not_mem_nil

variable {isMember : Char → Bool} {text rest : List Char}

instance : Decidable (IsRun isMember text) :=
  decidable_of_iff (text ≠ [] ∧ text.all isMember = true) (by simp [IsRun])

instance : Decidable (AllBlank text) :=
  decidable_of_iff (text.all isBlank = true) List.all_eq_true

instance : Decidable (Stops isMember text) :=
  decidable_of_iff (text.head?.any isMember = false) (by cases text <;> simp [Stops])

instance : Decidable (Trimmed text) :=
  inferInstanceAs (Decidable (text ≠ [] ∧ Stops isBlank text ∧ Stops isBlank text.reverse))

theorem takeWhile_append_of_stops (all : ∀ c ∈ text, isMember c = true)
    (stops : Stops isMember rest) : (text ++ rest).takeWhile isMember = text := by
  rw [List.takeWhile_append_of_pos all]
  cases rest with
  | nil => simp
  | cons c more =>
      have outside : isMember c = false := stops c rfl
      simp [outside]

theorem dropWhile_append_of_stops (all : ∀ c ∈ text, isMember c = true)
    (stops : Stops isMember rest) : (text ++ rest).dropWhile isMember = rest := by
  rw [List.dropWhile_append_of_pos all]
  cases rest with
  | nil => rfl
  | cons c more =>
      have outside : isMember c = false := stops c rfl
      simp [outside]

theorem stops_dropWhile (isMember : Char → Bool) (text : List Char) :
    Stops isMember (text.dropWhile isMember) := by
  intro c head
  have outside := List.head?_dropWhile_not isMember text
  rw [Option.mem_def.mp head] at outside
  exact outside

theorem stops_cons {c : Char} {more : List Char} (outside : isMember c = false) :
    Stops isMember (c :: more) := by
  intro first head
  cases head
  exact outside

theorem IsRun.exists_cons (run : IsRun isMember text) :
    ∃ first more, text = first :: more ∧ isMember first = true := by
  cases text with
  | nil => exact absurd rfl run.1
  | cons first more => exact ⟨first, more, rfl, run.2 first List.mem_cons_self⟩

theorem IsRun.head (run : IsRun isMember text) :
    ∀ c ∈ (text ++ rest).head?, isMember c = true := by
  obtain ⟨first, more, rfl, member⟩ := run.exists_cons
  intro c head
  cases head
  exact member

/-- There are no blanks in front of a run of a class that has no blanks. -/
theorem IsRun.stops_isBlank (run : IsRun isMember text)
    (blanks : ∀ {c : Char}, isBlank c = true → isMember c = false) :
    Stops isBlank (text ++ rest) := by
  intro c head
  have member := run.head c head
  cases blank : isBlank c with
  | false => rfl
  | true =>
      rw [blanks blank] at member
      contradiction

/-- Behind blanks a class without blanks stops where it stops behind them. -/
theorem AllBlank.stops (blank : AllBlank text) (stops : Stops isMember rest)
    (blanks : ∀ {c : Char}, isBlank c = true → isMember c = false) :
    Stops isMember (text ++ rest) := by
  cases text with
  | nil => exact stops
  | cons first more => exact stops_cons (blanks (blank first List.mem_cons_self))

theorem readRun?_append (run : IsRun isMember text) (stops : Stops isMember rest) :
    readRun? isMember (text ++ rest) = some (String.ofList text, rest) := by
  simp only [readRun?, takeWhile_append_of_stops run.2 stops,
    dropWhile_append_of_stops run.2 stops, List.isEmpty_iff, run.1, if_false]

theorem readRun?_eq_some {input : List Char} {word : String}
    (found : readRun? isMember input = some (word, rest)) :
    ∃ text, IsRun isMember text ∧ Stops isMember rest ∧ input = text ++ rest ∧
      word = String.ofList text := by
  simp only [readRun?] at found
  split at found
  · contradiction
  · rename_i nonempty
    cases found
    refine ⟨input.takeWhile isMember, ⟨?_, List.all_eq_true.mp List.all_takeWhile⟩,
      stops_dropWhile isMember input, List.takeWhile_append_dropWhile.symm, rfl⟩
    simpa only [List.isEmpty_iff] using nonempty

theorem readRun?_eq_none {input : List Char} (stops : Stops isMember input) :
    readRun? isMember input = none := by
  cases input with
  | nil => rfl
  | cons c more =>
      have outside : isMember c = false := stops c rfl
      simp [readRun?, outside]

theorem skipBlank_append (blank : AllBlank text) (stops : Stops isBlank rest) :
    skipBlank (text ++ rest) = rest :=
  dropWhile_append_of_stops blank stops

theorem exists_skipBlank (input : List Char) :
    ∃ blanks, AllBlank blanks ∧ input = blanks ++ skipBlank input ∧
      Stops isBlank (skipBlank input) :=
  ⟨input.takeWhile isBlank, List.all_eq_true.mp List.all_takeWhile,
    List.takeWhile_append_dropWhile.symm, stops_dropWhile isBlank input⟩

theorem skipBlank_of_allBlank {text : List Char} (blank : AllBlank text) :
    skipBlank text = [] := by
  have skipped : skipBlank (text ++ []) = [] := skipBlank_append blank (by simp [Stops])
  rwa [List.append_nil] at skipped

theorem AllBlank.reverse {text : List Char} (blank : AllBlank text) : AllBlank text.reverse :=
  fun c member => blank c (List.mem_reverse.mp member)

theorem trimList_append {before inner after : List Char} (blankBefore : AllBlank before)
    (trimmed : Trimmed inner) (blankAfter : AllBlank after) :
    trimList (before ++ (inner ++ after)) = inner := by
  obtain ⟨nonempty, start, finish⟩ := trimmed
  have front : Stops isBlank (inner ++ after) := by
    cases inner with
    | nil => exact absurd rfl nonempty
    | cons first more => exact start
  simp only [trimList, skipBlank_append blankBefore front, List.reverse_append,
    skipBlank_append blankAfter.reverse finish, List.reverse_reverse]

theorem trimmed_of_forall (nonempty : text ≠ []) (solid : ∀ c ∈ text, isBlank c = false) :
    Trimmed text :=
  ⟨nonempty, fun c head => solid c (List.mem_of_mem_head? head),
    fun c head => solid c (List.mem_reverse.mp (List.mem_of_mem_head? head))⟩

/-- A text is blank, or it is trimmed once the blanks at its ends are left out. -/
theorem exists_trimmed (raw : List Char) :
    AllBlank raw ∨ ∃ before inner after, AllBlank before ∧ Trimmed inner ∧ AllBlank after ∧
      raw = before ++ (inner ++ after) := by
  obtain ⟨before, blankBefore, split, start⟩ := exists_skipBlank raw
  obtain ⟨after, blankAfter, splitBack, finish⟩ := exists_skipBlank (skipBlank raw).reverse
  have middle : skipBlank raw = (skipBlank (skipBlank raw).reverse).reverse ++ after.reverse := by
    rw [← List.reverse_append, ← splitBack, List.reverse_reverse]
  cases trimmed : skipBlank (skipBlank raw).reverse with
  | nil =>
      rw [trimmed, List.reverse_nil, List.nil_append] at middle
      left
      rw [split, middle]
      intro c member
      rcases List.mem_append.mp member with inside | inside
      · exact blankBefore c inside
      · exact blankAfter.reverse c inside
  | cons first more =>
      right
      refine ⟨before, (first :: more).reverse, after.reverse, blankBefore,
        ⟨by simp, ?_, ?_⟩, blankAfter.reverse, ?_⟩
      · intro c head
        apply start c
        rw [middle, trimmed]
        rw [Option.mem_def] at head ⊢
        rw [List.head?_append, head, Option.some_or]
      · rwa [List.reverse_reverse, ← trimmed]
      · rw [← trimmed, ← middle, ← split]

theorem AllBlank.append {more : List Char} (blank : AllBlank text) (blankMore : AllBlank more) :
    AllBlank (text ++ more) :=
  fun c member => (List.mem_append.mp member).elim (blank c) (blankMore c)

theorem trimList_of_allBlank (blank : AllBlank text) : trimList text = [] := by
  rw [trimList, skipBlank_of_allBlank blank]
  rfl

/-- Blanks at the two ends are of no matter. -/
theorem trimList_between {before after : List Char} (blankBefore : AllBlank before)
    (text : List Char) (blankAfter : AllBlank after) :
    trimList (before ++ (text ++ after)) = trimList text := by
  rcases exists_trimmed text with blank | ⟨left, inner, right, blankLeft, trimmed, blankRight, rfl⟩
  · rw [trimList_of_allBlank blank,
      trimList_of_allBlank (blankBefore.append (blank.append blankAfter))]
  · have moved : before ++ ((left ++ (inner ++ right)) ++ after) =
        (before ++ left) ++ (inner ++ (right ++ after)) := by
      simp only [List.append_assoc]
    rw [moved, trimList_append blankLeft trimmed blankRight,
      trimList_append (blankBefore.append blankLeft) trimmed (blankRight.append blankAfter)]

theorem trimList_map {change : Char → Char} (keeps : ∀ c, isBlank (change c) = isBlank c)
    (text : List Char) : trimList (text.map change) = (trimList text).map change := by
  have same : isBlank ∘ change = isBlank := funext keeps
  simp only [trimList, skipBlank, List.dropWhile_map, same, ← List.map_reverse]

end Parlance.Pattern
