namespace Parlance.Calendar

/-! # Items of a date style

A date style is text in which an item begins with a percent sign and stands for a part of
the moment. A sign between the percent sign and the letter of one number changes how the
number is filled up to its width. Reading never fails: what is no item becomes `invalid`.
-/

/-- What a number is filled up with on the left. -/
inductive Padding where
  | none
  | zero
  | space
deriving Repr, DecidableEq

inductive NumberPart where
  | year | century | yearOfCentury
  | weekYear | weekYearOfCentury | week
  | quarter | month | day | dayOfYear
  | weekFromSunday | weekFromMonday | daysSinceSunday | dayFromMonday
  | hour | dialHour | minute | second | nanosecond | timestamp
deriving Repr, DecidableEq

inductive WordPart where
  | shortMonth | month | shortWeekday | weekday | lowerHalf | upperHalf
deriving Repr, DecidableEq

inductive Item where
  | literal (text : List Char)
  | number (part : NumberPart) (padding : Padding)
  | word (part : WordPart)
  /-- A point and three, six or nine digits, as many as needed; nothing in a whole second. -/
  | fraction
  /-- A fixed count of digits of the second, with or without a point. -/
  | fractionDigits (count : Nat) (pointed : Bool)
  /-- Refers to the distance from a zone of time, which a moment does not have. -/
  | offset
  | invalid
deriving Repr, DecidableEq

namespace Item

def zeroed (part : NumberPart) : Item := number part .zero

def spaced (part : NumberPart) : Item := number part .space

def unpadded (part : NumberPart) : Item := number part .none

def char (c : Char) : Item := literal [c]

def numberOfLetter? (c : Char) : Option Item :=
  match c with
  | 'Y' => some (zeroed .year)
  | 'C' => some (zeroed .century)
  | 'y' => some (zeroed .yearOfCentury)
  | 'G' => some (zeroed .weekYear)
  | 'g' => some (zeroed .weekYearOfCentury)
  | 'V' => some (zeroed .week)
  | 'q' => some (unpadded .quarter)
  | 'm' => some (zeroed .month)
  | 'd' => some (zeroed .day)
  | 'e' => some (spaced .day)
  | 'j' => some (zeroed .dayOfYear)
  | 'U' => some (zeroed .weekFromSunday)
  | 'W' => some (zeroed .weekFromMonday)
  | 'w' => some (unpadded .daysSinceSunday)
  | 'u' => some (unpadded .dayFromMonday)
  | 'H' => some (zeroed .hour)
  | 'k' => some (spaced .hour)
  | 'I' => some (zeroed .dialHour)
  | 'l' => some (spaced .dialHour)
  | 'M' => some (zeroed .minute)
  | 'S' => some (zeroed .second)
  | 'f' => some (zeroed .nanosecond)
  | 's' => some (unpadded .timestamp)
  | _ => none

def monthDayYear : List Item :=
  [zeroed .month, char '/', zeroed .day, char '/', zeroed .yearOfCentury]

def hourMinute : List Item :=
  [zeroed .hour, char ':', zeroed .minute]

def hourMinuteSecond : List Item :=
  hourMinute ++ [char ':', zeroed .second]

def wordsOfLetter? (c : Char) : Option (List Item) :=
  match c with
  | 'a' => some [word .shortWeekday]
  | 'A' => some [word .weekday]
  | 'b' | 'h' => some [word .shortMonth]
  | 'B' => some [word .month]
  | 'p' => some [word .upperHalf]
  | 'P' => some [word .lowerHalf]
  | 'D' | 'x' => some monthDayYear
  | 'F' => some [zeroed .year, char '-', zeroed .month, char '-', zeroed .day]
  | 'R' => some hourMinute
  | 'T' | 'X' => some hourMinuteSecond
  | 'r' => some [zeroed .dialHour, char ':', zeroed .minute, char ':', zeroed .second, char ' ',
      word .upperHalf]
  | 'c' => some ([word .shortWeekday, char ' ', word .shortMonth, char ' ', spaced .day,
      char ' '] ++ hourMinuteSecond ++ [char ' ', zeroed .year])
  | 'v' => some [spaced .day, char '-', word .shortMonth, char '-', zeroed .year]
  | 'n' => some [char '\n']
  | 't' => some [char '\t']
  | '%' => some [char '%']
  | 'z' | 'Z' | '+' => some [offset]
  | _ => none

def paddingOfSign? (c : Char) : Option Padding :=
  match c with
  | '-' => some .none
  | '0' => some .zero
  | '_' => some .space
  | _ => none

def digitCount? (c : Char) : Option Nat :=
  match c with
  | '3' => some 3
  | '6' => some 6
  | '9' => some 9
  | _ => none

def readPadded (padding : Padding) : List Char → List Item × List Char
  | [] => ([invalid], [])
  | c :: rest =>
    match numberOfLetter? c with
    | some (number part _) => ([number part padding], rest)
    | _ => ([invalid], rest)

def readColons : List Char → List Item × List Char
  | ':' :: ':' :: 'z' :: rest => ([offset], rest)
  | ':' :: 'z' :: rest => ([offset], rest)
  | 'z' :: rest => ([offset], rest)
  | rest => ([invalid], rest)

def readDigits (count : Nat) (pointed : Bool) : List Char → List Item × List Char
  | 'f' :: rest => ([fractionDigits count pointed], rest)
  | rest => ([invalid], rest)

def readFraction : List Char → List Item × List Char
  | [] => ([invalid], [])
  | c :: rest =>
    if c = 'f' then ([fraction], rest)
    else match digitCount? c with
      | some count => readDigits count true rest
      | none => ([invalid], rest)

def readHash : List Char → List Item × List Char
  | 'z' :: rest => ([offset], rest)
  | rest => ([invalid], rest)

def readMarked (mark : Char) (style : List Char) : List Item × List Char :=
  if mark = '#' then readHash style
  else if mark = ':' then readColons style
  else if mark = '.' then readFraction style
  else match digitCount? mark with
    | some count => readDigits count false style
    | none => ([invalid], style)

/-- The items after a percent sign, and the rest of the style. -/
def readSpecified : List Char → List Item × List Char
  | [] => ([invalid], [])
  | c :: rest =>
    match paddingOfSign? c, numberOfLetter? c, wordsOfLetter? c with
    | some padding, _, _ => readPadded padding rest
    | none, some item, _ => ([item], rest)
    | none, none, some items => (items, rest)
    | none, none, none => readMarked c rest

theorem readPadded_length_le (padding : Padding) (style : List Char) :
    (readPadded padding style).2.length ≤ style.length := by
  unfold readPadded
  repeat' split
  all_goals simp

theorem readColons_length_le (style : List Char) :
    (readColons style).2.length ≤ style.length := by
  unfold readColons
  split <;> simp <;> omega

theorem readDigits_length_le (count : Nat) (pointed : Bool) (style : List Char) :
    (readDigits count pointed style).2.length ≤ style.length := by
  unfold readDigits
  split <;> simp

theorem readFraction_length_le (style : List Char) :
    (readFraction style).2.length ≤ style.length := by
  unfold readFraction
  split
  · simp
  · rename_i c rest
    split
    · simp
    · split
      · exact Nat.le_succ_of_le (readDigits_length_le _ true rest)
      · simp

theorem readHash_length_le (style : List Char) :
    (readHash style).2.length ≤ style.length := by
  unfold readHash
  split <;> simp

theorem readMarked_length_le (mark : Char) (style : List Char) :
    (readMarked mark style).2.length ≤ style.length := by
  unfold readMarked
  split
  · exact readHash_length_le style
  split
  · exact readColons_length_le style
  split
  · exact readFraction_length_le style
  split
  · exact readDigits_length_le _ false style
  · exact Nat.le_refl _

theorem readSpecified_length_le (style : List Char) :
    (readSpecified style).2.length ≤ style.length := by
  unfold readSpecified
  split
  · exact Nat.le_refl _
  · rename_i c rest
    have shorter : rest.length ≤ (c :: rest).length := Nat.le_succ _
    split
    · exact Nat.le_trans (readPadded_length_le _ rest) shorter
    · exact shorter
    · exact shorter
    · exact Nat.le_trans (readMarked_length_le c rest) shorter

def read : List Char → List Item
  | [] => []
  | c :: rest =>
    if c = '%' then (readSpecified rest).1 ++ read (readSpecified rest).2
    else char c :: read rest
termination_by style => style.length
decreasing_by
  · exact Nat.lt_succ_of_le (readSpecified_length_le rest)
  · exact Nat.lt_succ_self _

/-- Whether the item can be written for every moment. -/
def isWritable (item : Item) : Bool :=
  item ≠ invalid && item ≠ offset

end Item

end Parlance.Calendar
