import Parlance.Pattern.Run

namespace Parlance.Pattern

open Parlance.Text

/-! # Attributes of tags

An attribute is a name with blanks before it, and maybe an equals sign and a value. A value
stands between two quotes of one sort, or it is a run. A quote that is never closed belongs
to a run.
-/

/-- The beginning up to a quote, and what follows that quote. -/
def readQuoted? (quote : Char) (input : List Char) : Option (String × List Char) :=
  match input.dropWhile (· != quote) with
  | _ :: rest => some (String.ofList (input.takeWhile (· != quote)), rest)
  | [] => none

/-- A quoted value, if the input begins with one that ends. -/
def readQuotedValue? : List Char → Option (String × List Char)
  | '"' :: rest => readQuoted? '"' rest
  | '\'' :: rest => readQuoted? '\'' rest
  | _ => none

def readValue (input : List Char) : Except Failure (String × List Char) :=
  match readQuotedValue? input with
  | some found => .ok found
  | none =>
    match readRun? isUnquotedChar input with
    | some found => .ok found
    | none => fail .attributeValue input

/-- The value of an attribute, if it has one, behind its name. -/
def readAttributeValue (input : List Char) : Except Failure (Option String × List Char) :=
  match skipBlank input with
  | '=' :: rest => (readValue (skipBlank rest)).map fun (value, rest) => (some value, rest)
  | _ => .ok (none, input)

/-- One attribute, if the input begins with blanks and a name. -/
def readAttribute? (input : List Char) :
    Except Failure (Option ((String × Option String) × List Char)) :=
  match readRun? isBlank input with
  | none => .ok none
  | some (_, named) =>
    match readRun? isTagChar named with
    | none => .ok none
    | some (name, rest) =>
      (readAttributeValue rest).map fun (value, rest) => some ((name, value), rest)

theorem readQuoted?_length_lt {quote : Char} {input rest : List Char} {value : String}
    (found : readQuoted? quote input = some (value, rest)) : rest.length < input.length := by
  simp only [readQuoted?] at found
  split at found
  · rename_i c tail dropped
    simp only [Option.some.injEq, Prod.mk.injEq] at found
    obtain ⟨_, rfl⟩ := found
    have := (List.dropWhile_suffix (l := input) (· != quote)).length_le
    rw [dropped] at this
    exact this
  · contradiction

theorem readValue_length_lt {input rest : List Char} {value : String}
    (found : readValue input = .ok (value, rest)) : rest.length < input.length := by
  simp only [readValue] at found
  split at found
  · rename_i quoted
    cases found
    unfold readQuotedValue? at quoted
    split at quoted
    · exact Nat.lt_succ_of_lt (readQuoted?_length_lt quoted)
    · exact Nat.lt_succ_of_lt (readQuoted?_length_lt quoted)
    · contradiction
  · split at found
    · rename_i unquoted
      cases found
      exact readRun?_length_lt unquoted
    · contradiction

theorem readAttributeValue_length_le {input rest : List Char} {value : Option String}
    (found : readAttributeValue input = .ok (value, rest)) : rest.length ≤ input.length := by
  simp only [readAttributeValue] at found
  split at found
  · rename_i behind skipped
    obtain ⟨⟨text, after⟩, read, same⟩ := exists_ok_of_map found
    cases same
    have shorter := readValue_length_lt read
    have blanks := skipBlank_length_le behind
    have start := skipBlank_length_le input
    rw [skipped, List.length_cons] at start
    show after.length ≤ input.length
    omega
  · cases found
    exact Nat.le_refl _

theorem readAttribute?_length_lt {input rest : List Char} {entry : String × Option String}
    (found : readAttribute? input = .ok (some (entry, rest))) : rest.length < input.length := by
  simp only [readAttribute?] at found
  split at found
  · cases found
  · rename_i named blanks
    split at found
    · cases found
    · rename_i name behind run
      obtain ⟨⟨value, after⟩, read, same⟩ := exists_ok_of_map found
      cases same
      exact Nat.lt_of_le_of_lt (readAttributeValue_length_le read)
        (Nat.lt_trans (readRun?_length_lt run) (readRun?_length_lt blanks))

def readAttributes (input : List Char) :
    Except Failure (List (String × Option String) × List Char) :=
  match _found : readAttribute? input with
  | .error failure => .error failure
  | .ok none => .ok ([], input)
  | .ok (some (entry, rest)) =>
    match readAttributes rest with
    | .error failure => .error failure
    | .ok (entries, rest) => .ok (entry :: entries, rest)
termination_by input.length
decreasing_by exact readAttribute?_length_lt _found

theorem readAttributes_length_le (input : List Char) {rest : List Char}
    {entries : List (String × Option String)}
    (found : readAttributes input = .ok (entries, rest)) : rest.length ≤ input.length := by
  fun_induction readAttributes input generalizing entries rest with
  | case1 => contradiction
  | case2 => cases found; exact Nat.le_refl _
  | case3 => contradiction
  | case4 input entry behind read later after last ih =>
      cases found
      exact Nat.le_trans (ih last) (Nat.le_of_lt (readAttribute?_length_lt read))

end Parlance.Pattern
