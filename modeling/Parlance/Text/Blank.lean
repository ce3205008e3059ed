import Parlance.Text.Ranges

namespace Parlance.Text

/-! # Blank characters

Blank means the Unicode property White_Space, everywhere in the project. The zero-width
space and the byte order mark do not have it.
-/

/-- The characters with the property White_Space, as inclusive ranges in increasing order. -/
def blankRanges : List (Nat × Nat) := [
  (0x9, 0xd), (0x20, 0x20), (0x85, 0x85), (0xa0, 0xa0), (0x1680, 0x1680), (0x2000, 0x200a),
  (0x2028, 0x2029), (0x202f, 0x202f), (0x205f, 0x205f), (0x3000, 0x3000)]

theorem blankRanges_increasing : RangesFrom 0 blankRanges := by
  decide +kernel

def isBlank (c : Char) : Bool :=
  inRanges blankRanges c

def skipBlank (input : List Char) : List Char :=
  input.dropWhile isBlank

def trimList (text : List Char) : List Char :=
  (skipBlank (skipBlank text).reverse).reverse

def trim (text : String) : String :=
  String.ofList (trimList text.toList)

theorem skipBlank_length_le (input : List Char) :
    (skipBlank input).length ≤ input.length :=
  (List.dropWhile_suffix isBlank).length_le

theorem skipBlank_suffix (input : List Char) : skipBlank input <:+ input :=
  List.dropWhile_suffix isBlank

end Parlance.Text
