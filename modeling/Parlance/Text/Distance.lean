namespace Parlance.Text

/-! # Edit distance

The least number of insertions, deletions and replacements of one character that turn one
text into another. Exchanging two neighbours counts as two edits. The table is computed row
by row: an entry of the row of `first` belongs to a beginning of `second`.
-/

/-- The row below `above`, from its entry after `left` on. -/
def distanceRow (x : Char) (left : Nat) : List Char → List Nat → List Nat
  | y :: second, diagonal :: above :: row =>
    let replaced := if x = y then diagonal else diagonal + 1
    let entry := min replaced (min (above + 1) (left + 1))
    entry :: distanceRow x entry second (above :: row)
  | _, _ => []

def distanceRows (second : List Char) : Nat → List Char → List Nat → List Nat
  | _, [], row => row
  | deleted, x :: first, row =>
    distanceRows second (deleted + 1) first
      ((deleted + 1) :: distanceRow x (deleted + 1) second row)

def editDistance (first second : String) : Nat :=
  let row := distanceRows second.toList 0 first.toList (List.range (second.length + 1))
  row.getLastD 0

example : editDistance "kitten" "sitting" = 3 := by decide +kernel
example : editDistance "" "one" = 3 := by decide +kernel
example : editDistance "ab" "ba" = 2 := by decide +kernel

end Parlance.Text
