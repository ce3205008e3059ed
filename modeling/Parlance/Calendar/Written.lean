import Parlance.Calendar.Item
import Parlance.Calendar.Moment
import Parlance.Number.Power

namespace Parlance.Calendar

/-! # Writing moments

The items of a style are written one after another. Numbers of at most two digits have
their own rule: they are written as tens and ones, where the tens may exceed nine and then
continue in the order of the code points after the digit.
-/

def digitChar (value : Nat) : Char :=
  Char.ofNat (48 + value)

def twoColumns (padding : Padding) (value : Nat) : String :=
  let ones := String.singleton (digitChar (value % 10))
  if value / 10 = 0 then
    match padding with
    | .none => ones
    | .space => " " ++ ones
    | .zero => "0" ++ ones
  else String.singleton (digitChar (value / 10)) ++ ones

def fill (width : Nat) (padding : Padding) (sign digits : String) : String :=
  let missing := width - (sign.length + digits.length)
  match padding with
  | .none => sign ++ digits
  | .space => String.ofList (List.replicate missing ' ') ++ sign ++ digits
  | .zero => sign ++ String.ofList (List.replicate missing '0') ++ digits

/-- A number filled up to a width, with a sign if it is negative. -/
def filled (width : Nat) (padding : Padding) (value : Int) : String :=
  fill width padding (if value < 0 then "-" else "") (toString value.natAbs)

/-- A year in four columns. Years before 0 and after 9999 have a sign and a fifth column. -/
def yearText (padding : Padding) (year : Int) : String :=
  if 0 ≤ year ∧ year ≤ 9999 then filled 4 padding year
  else fill 5 padding (if year < 0 then "-" else "+") (toString year.natAbs)

def monthNames : List String := ["January", "February", "March", "April", "May", "June", "July",
  "August", "September", "October", "November", "December"]

def weekdayNames : List String := ["Monday", "Tuesday", "Wednesday", "Thursday", "Friday",
  "Saturday", "Sunday"]

def abbreviated (name : String) : String :=
  String.ofList (name.toList.take 3)

def monthName (date : Date) : String :=
  monthNames.getD (date.month - 1) ""

def weekdayName (date : Date) : String :=
  weekdayNames.getD date.daysSinceMonday ""

namespace NumberPart

/-- The number of the week, where weeks begin a number of days before the date. -/
def weekOfYear (date : Date) (daysSinceStart : Nat) : Nat :=
  (date.ordinal + 6 - daysSinceStart) / 7

def write (part : NumberPart) (padding : Padding) (moment : Moment) : String :=
  let date := moment.date
  let time := moment.time
  match part with
  | year => yearText padding date.year
  | century => twoColumns padding (date.year / 100 % 256).toNat
  | yearOfCentury => twoColumns padding (date.year % 100).toNat
  | weekYear => yearText padding date.week.1
  | weekYearOfCentury => twoColumns padding (date.week.1 % 100).toNat
  | week => twoColumns padding date.week.2
  | quarter => toString date.quarter
  | month => twoColumns padding date.month
  | day => twoColumns padding date.day
  | dayOfYear => filled 3 padding date.ordinal
  | weekFromSunday => twoColumns padding (weekOfYear date date.daysSinceSunday)
  | weekFromMonday => twoColumns padding (weekOfYear date date.daysSinceMonday)
  | daysSinceSunday => toString date.daysSinceSunday
  | dayFromMonday => toString (date.daysSinceMonday + 1)
  | hour => twoColumns padding time.hour
  | dialHour => twoColumns padding time.dialHour
  | minute => twoColumns padding time.minute
  | second => twoColumns padding time.shownSecond
  | nanosecond => filled 9 padding time.shownNanosecond
  | timestamp => filled 9 padding moment.timestamp

end NumberPart

namespace WordPart

def write (part : WordPart) (moment : Moment) : String :=
  match part with
  | shortMonth => abbreviated (monthName moment.date)
  | month => monthName moment.date
  | shortWeekday => abbreviated (weekdayName moment.date)
  | weekday => weekdayName moment.date
  | lowerHalf => if moment.time.isAfternoon then "pm" else "am"
  | upperHalf => if moment.time.isAfternoon then "PM" else "AM"

end WordPart

def fractionText (count : Nat) (time : Time) : String :=
  filled count .zero (time.shownNanosecond / Number.powerOfTen (9 - count) : Nat)

/-- The fraction of the second with as many groups of three digits as it needs. -/
def shortFractionText (time : Time) : String :=
  let nanosecond := time.shownNanosecond
  if nanosecond = 0 then ""
  else if nanosecond % 1000000 = 0 then "." ++ fractionText 3 time
  else if nanosecond % 1000 = 0 then "." ++ fractionText 6 time
  else "." ++ fractionText 9 time

namespace Item

/-- The text of an item, or nothing for one that no moment has. -/
def write? (moment : Moment) : Item → Option String
  | literal text => some (String.ofList text)
  | number part padding => some (part.write padding moment)
  | word part => some (part.write moment)
  | fraction => some (shortFractionText moment.time)
  | fractionDigits count pointed =>
    some ((if pointed then "." else "") ++ fractionText count moment.time)
  | offset => none
  | invalid => none

theorem write?_isSome (item : Item) (moment : Moment) :
    (item.write? moment).isSome = item.isWritable := by
  cases item <;> rfl

end Item

/-- The moment in a style, or nothing if some item of the style cannot be written. -/
def writeStyle? (style : String) (moment : Moment) : Option String :=
  ((Item.read style.toList).mapM (Item.write? moment)).map String.join

/-- Date and time of day with a `T` between them, down to the second. -/
def plainStyle : String := "%Y-%m-%dT%H:%M:%S"

def Moment.plain (moment : Moment) : String :=
  (writeStyle? plainStyle moment).getD ""

end Parlance.Calendar
