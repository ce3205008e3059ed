import Parlance.Pattern.Reader
import Parlance.Proofs.Pattern.Lexemes

namespace Parlance.Pattern

open Parlance.Text

/-! # Where a message ends

A message inside a pattern ends before the brace of its branch or before the closing tag of its
tag. A branch is followed by the next branch or by the end of the directive.
-/

variable {input body rest : List Char} {key name : String} {used : List String}

theorem readBranch_of_key (keyed : Word isKeyChar input key ('{' :: body)) (fresh : key ∉ used) :
    readBranch used input = .ok (some key, body) := by
  obtain ⟨behind, read, skipped⟩ := keyed.read not_isKeyChar_of_isBlank
    (stops_cons (by decide)) (stops_cons (by decide +kernel))
  simp only [readBranch, read, fresh, if_false, skipped, openBranch, Except.map]

theorem readBranch_of_close {blanks : List Char} (blank : AllBlank blanks) (nonempty : used ≠ []) :
    readBranch used (blanks ++ '}' :: rest) = .ok (none, rest) := by
  have noBlank : Stops isBlank ('}' :: rest) := stops_cons (by decide)
  have noKey : Stops isKeyChar ('}' :: rest) := stops_cons (by decide +kernel)
  simp only [readBranch, skipBlank_append blank noBlank, readRun?_eq_none noKey,
    List.isEmpty_iff, nonempty, if_false, closeBranches, Except.map]

theorem closeBranches_eq_ok (closed : closeBranches input = .ok rest) : input = '}' :: rest := by
  unfold closeBranches at closed
  split at closed
  · cases closed
    rfl
  · contradiction

theorem openBranch_eq_ok (opened : openBranch input = .ok rest) : input = '{' :: rest := by
  unfold openBranch at opened
  split at opened
  · cases opened
    rfl
  · contradiction

theorem closeBranches_error {failure : Failure} (failed : closeBranches input = .error failure) :
    input = failure.rest := by
  unfold closeBranches at failed
  split at failed
  · contradiction
  · cases failed
    rfl

theorem openBranch_error {failure : Failure} (failed : openBranch input = .error failure) :
    input = failure.rest := by
  unfold openBranch at failed
  split at failed
  · contradiction
  · cases failed
    rfl

theorem key_of_readBranch (found : readBranch used input = .ok (some key, rest)) :
    key ∉ used ∧ Word isKeyChar input key ('{' :: rest) := by
  simp only [readBranch] at found
  split at found
  · split at found
    · contradiction
    · obtain ⟨behind, _, same⟩ := exists_ok_of_map found
      cases same
  · rename_i written behind read
    split at found
    · contradiction
    · rename_i fresh
      obtain ⟨after, opened, same⟩ := exists_ok_of_map found
      cases same
      have keyed := word_of_readRun? read
      rw [openBranch_eq_ok opened] at keyed
      exact ⟨fresh, keyed⟩

theorem close_of_readBranch (found : readBranch used input = .ok (none, rest)) :
    used ≠ [] ∧ ∃ blanks, AllBlank blanks ∧ input = blanks ++ '}' :: rest := by
  simp only [readBranch] at found
  split at found
  · split at found
    · contradiction
    · rename_i nonempty
      obtain ⟨after, closed, same⟩ := exists_ok_of_map found
      cases same
      obtain ⟨blanks, blank, split, _⟩ := exists_skipBlank input
      rw [closeBranches_eq_ok closed] at split
      exact ⟨by simpa only [List.isEmpty_iff] using nonempty, blanks, blank, split⟩
  · rename_i behind read
    split at found
    · contradiction
    · obtain ⟨after, _, same⟩ := exists_ok_of_map found
      cases same

theorem readExactly?_append (expected rest : List Char) :
    readExactly? expected (expected ++ rest) = some rest := by
  induction expected with
  | nil => rfl
  | cons c more ih => simpa only [List.cons_append, readExactly?, if_true] using ih

theorem readExactly?_eq_some {expected : List Char}
    (found : readExactly? expected input = some rest) : input = expected ++ rest := by
  fun_induction readExactly? expected input with
  | case1 => cases found; rfl
  | case2 more c behind ih => rw [ih found, List.cons_append]
  | case3 => contradiction
  | case4 => contradiction

theorem ClosingTag.read (closing : ClosingTag input name rest) :
    readClosingTag name input = .ok rest := by
  obtain ⟨blanks, blank, rfl⟩ := closing
  have bracket : Stops isBlank ('>' :: rest) := stops_cons (by decide)
  have whole : beginsWithTagChar (blanks ++ '>' :: rest) = false := by
    cases blanks with
    | nil => exact show isTagChar '>' = false by decide +kernel
    | cons first more => exact not_isTagChar_of_isBlank (blank first List.mem_cons_self)
  simp only [readClosingTag, readClosingName, readExactly?_append, whole,
    skipBlank_append blank bracket, endClosingTag]
  rfl

theorem closingTag_of_read (found : readClosingTag name input = .ok rest) :
    ClosingTag input name rest := by
  unfold readClosingTag at found
  split at found
  · rename_i behind
    unfold readClosingName at found
    split at found
    · contradiction
    · rename_i after exact
      split at found
      · contradiction
      · unfold endClosingTag at found
        split at found
        · rename_i skipped
          cases found
          obtain ⟨blanks, blank, split, _⟩ := exists_skipBlank after
          rw [skipped] at split
          refine ⟨blanks, blank, ?_⟩
          rw [← split, ← readExactly?_eq_some exact]
        · contradiction
  · contradiction

end Parlance.Pattern
