namespace Parlance.Calendar

/-! # Dates and times of day

Dates follow the Gregorian calendar, extended to all years before and after its beginning.
A time of day counts nanoseconds; a leap second is the second 59 with a thousand million
nanoseconds or more.
-/

structure Date where
  year : Int
  month : Nat
  day : Nat
deriving Repr, DecidableEq, Inhabited

structure Time where
  hour : Nat
  minute : Nat
  second : Nat
  nanosecond : Nat
deriving Repr, DecidableEq, Inhabited

structure Moment where
  date : Date
  time : Time
deriving Repr, DecidableEq, Inhabited

def nanosecondsInSecond : Nat := 1000000000

def secondsInDay : Nat := 86400

def isLeapYear (year : Int) : Bool :=
  year % 4 == 0 && (year % 100 != 0 || year % 400 == 0)

def daysInYear (year : Int) : Nat :=
  if isLeapYear year then 366 else 365

def daysInMonth (year : Int) (month : Nat) : Nat :=
  if month = 2 then (if isLeapYear year then 29 else 28)
  else if month ∈ [4, 6, 9, 11] then 30
  else 31

namespace Date

def IsValid (date : Date) : Prop :=
  1 ≤ date.month ∧ date.month ≤ 12 ∧ 1 ≤ date.day ∧ date.day ≤ daysInMonth date.year date.month

instance (date : Date) : Decidable date.IsValid :=
  inferInstanceAs (Decidable (_ ∧ _))

def daysBeforeMonth (year : Int) : Nat → Nat
  | 0 => 0
  | month + 1 => if month = 0 then 0 else daysBeforeMonth year month + daysInMonth year month

def ordinal (date : Date) : Nat :=
  daysBeforeMonth date.year date.month + date.day

/-- Days from the first of January of the year 1 to the first of January of `year`. -/
def daysBeforeYear (year : Int) : Int :=
  let complete := year - 1
  365 * complete + complete / 4 - complete / 100 + complete / 400

def dayNumber (date : Date) : Int :=
  daysBeforeYear date.year + date.ordinal - 1 - daysBeforeYear 1970

def daysSinceMonday (date : Date) : Nat :=
  ((date.dayNumber + 3) % 7).toNat

def daysSinceSunday (date : Date) : Nat :=
  (date.daysSinceMonday + 1) % 7

def quarter (date : Date) : Nat :=
  (date.month + 2) / 3

/-- The year of the week that the date is in, and the week's number. A week belongs to the
year of its Thursday. -/
def week (date : Date) : Int × Nat :=
  let thursday : Int := date.ordinal + 3 - date.daysSinceMonday
  if thursday < 1 then
    (date.year - 1, ((thursday + daysInYear (date.year - 1) - 1) / 7).toNat + 1)
  else if (daysInYear date.year : Int) < thursday then (date.year + 1, 1)
  else (date.year, ((thursday - 1) / 7).toNat + 1)

def next (date : Date) : Date :=
  if date.day < daysInMonth date.year date.month then { date with day := date.day + 1 }
  else if date.month < 12 then ⟨date.year, date.month + 1, 1⟩
  else ⟨date.year + 1, 1, 1⟩

def previous (date : Date) : Date :=
  if 1 < date.day then { date with day := date.day - 1 }
  else if 1 < date.month then
    ⟨date.year, date.month - 1, daysInMonth date.year (date.month - 1)⟩
  else ⟨date.year - 1, 12, 31⟩

example : (⟨1970, 1, 1⟩ : Date).dayNumber = 0 := by decide
example : (⟨2024, 1, 5⟩ : Date).daysSinceMonday = 4 := by decide
example : (⟨2021, 1, 3⟩ : Date).week = (2020, 53) := by decide
example : (⟨2024, 12, 30⟩ : Date).week = (2025, 1) := by decide

end Date

namespace Time

def midnight : Time := ⟨0, 0, 0, 0⟩

def IsValid (time : Time) : Prop :=
  time.hour < 24 ∧ time.minute < 60 ∧ time.second < 60 ∧
    time.nanosecond < (if time.second = 59 then 2 else 1) * nanosecondsInSecond

instance (time : Time) : Decidable time.IsValid :=
  inferInstanceAs (Decidable (_ ∧ _))

/-- Seconds since midnight. A leap second counts as the second before it. -/
def secondOfDay (time : Time) : Nat :=
  3600 * time.hour + 60 * time.minute + time.second

/-- The time at a second of the day, with nanoseconds within it. -/
def ofSecond (second nanosecond : Nat) : Time :=
  ⟨second / 3600, second / 60 % 60, second % 60, nanosecond⟩

def dialHour (time : Time) : Nat :=
  if time.hour % 12 = 0 then 12 else time.hour % 12

def isAfternoon (time : Time) : Bool :=
  12 ≤ time.hour

/-- The second as it is shown: 60 in a leap second. -/
def shownSecond (time : Time) : Nat :=
  time.second + time.nanosecond / nanosecondsInSecond

/-- The nanoseconds within the second as it is shown. -/
def shownNanosecond (time : Time) : Nat :=
  time.nanosecond % nanosecondsInSecond

end Time

namespace Moment

def ofDate (date : Date) : Moment :=
  ⟨date, Time.midnight⟩

def IsValid (moment : Moment) : Prop :=
  moment.date.IsValid ∧ moment.time.IsValid

instance (moment : Moment) : Decidable moment.IsValid :=
  inferInstanceAs (Decidable (_ ∧ _))

/-- Seconds since the first of January 1970, without leap seconds. -/
def timestamp (moment : Moment) : Int :=
  secondsInDay * moment.date.dayNumber + moment.time.secondOfDay

/-- The moment on a clock that is ahead by a number of seconds, less than a day. -/
def shift (moment : Moment) (ahead : Int) : Moment :=
  let second := moment.time.secondOfDay + ahead
  let date :=
    if second < 0 then moment.date.previous
    else if secondsInDay ≤ second then moment.date.next
    else moment.date
  ⟨date, Time.ofSecond (second % secondsInDay).toNat moment.time.nanosecond⟩

end Moment

end Parlance.Calendar
