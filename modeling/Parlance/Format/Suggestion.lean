import Parlance.Text.Distance
import Parlance.Text.Order

namespace Parlance.Format

open Parlance.Text

/-! # Suggestions for a missing key

Suggested are the keys at a small edit distance, the closest first and equally close ones by
name, and three of them at most. A longer key may be further off.
-/

def distanceLimit (key : String) : Nat :=
  if 3 < key.length then 2 else 1

/-- The order of suggestions: by distance from the key and then by name. -/
def isSuggestedBefore (first second : Nat × String) : Bool :=
  first.1 < second.1 || first.1 == second.1 && isAtMost first.2 second.2

def rankedCandidates (distance : String → String → Nat) (key : String)
    (available : List String) : List (Nat × String) :=
  ((available.map fun candidate => (distance key candidate, candidate)).filter
    fun ranked => ranked.1 ≤ distanceLimit key).mergeSort isSuggestedBefore

def suggestionsBy (distance : String → String → Nat) (key : String)
    (available : List String) : List String :=
  ((rankedCandidates distance key available).take 3).map Prod.snd

def suggestions (key : String) (available : List String) : List String :=
  suggestionsBy editDistance key available

end Parlance.Format
