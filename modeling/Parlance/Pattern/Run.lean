import Parlance.Pattern.Failure
import Parlance.Text.Blank
import Parlance.Text.CharClass

namespace Parlance.Pattern

open Parlance.Text

/-! # Runs of characters

Names, keys and unquoted values are runs: the longest beginning of characters of a class,
which must not be empty.
-/

def isNameChar (c : Char) : Bool :=
  isAlphanumeric c || c == '_'

def isKeyChar (c : Char) : Bool :=
  isAlphanumeric c || c ∈ ['_', '=', '-', '.']

def isTagChar (c : Char) : Bool :=
  isAlphanumeric c || c ∈ ['_', '-', ':']

/-- The characters that a backslash turns into text. -/
def isSpecial (c : Char) : Bool :=
  c ∈ ['{', '}', '<', '>', '#', '\\']

/-- The characters of text that need no backslash. -/
def isOrdinary (c : Char) : Bool :=
  c ∉ ['{', '}', '<', '\\', '#']

/-- The characters of a value of an attribute that is not quoted. -/
def isUnquotedChar (c : Char) : Bool :=
  !isBlank c && c ∉ ['<', '>']

def isBrace (c : Char) : Bool :=
  c ∈ ['{', '}']

/-- The longest beginning of characters of a class, unless it is empty. -/
def readRun? (isMember : Char → Bool) (input : List Char) : Option (String × List Char) :=
  let run := input.takeWhile isMember
  if run.isEmpty then none else some (String.ofList run, input.dropWhile isMember)

def fail {α : Type} (cause : Cause) (rest : List Char) : Except Failure α :=
  .error ⟨cause, rest⟩

/-- What a change of a result succeeds with was a success before the change. -/
theorem exists_ok_of_map {ε α β : Type} {read : Except ε α} {change : α → β} {result : β}
    (found : read.map change = .ok result) : ∃ value, read = .ok value ∧ change value = result := by
  cases read with
  | error failure => contradiction
  | ok value => exact ⟨value, rfl, Except.ok.inj found⟩

/-- What a change of a result fails with was the failure before the change. -/
theorem error_of_map {ε α β : Type} {read : Except ε α} {change : α → β} {error : ε}
    (failed : read.map change = .error error) : read = .error error := by
  cases read with
  | error other =>
      cases failed
      rfl
  | ok value => contradiction

theorem readRun?_length_lt {isMember : Char → Bool} {input rest : List Char} {run : String}
    (found : readRun? isMember input = some (run, rest)) : rest.length < input.length := by
  cases input with
  | nil => simp [readRun?] at found
  | cons c tail =>
      simp only [readRun?] at found
      split at found
      · contradiction
      · rename_i nonempty
        simp only [Option.some.injEq, Prod.mk.injEq] at found
        obtain ⟨_, rfl⟩ := found
        cases member : isMember c with
        | false => simp [member] at nonempty
        | true =>
            rw [List.dropWhile_cons_of_pos member]
            exact Nat.lt_succ_of_le (List.dropWhile_suffix isMember).length_le

end Parlance.Pattern
