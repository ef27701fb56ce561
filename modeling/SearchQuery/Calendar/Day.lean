/-!
Days of the proleptic Gregorian calendar, counted from 1 January 1970.
-/

namespace SearchQuery.Calendar

def isLeapYear (year : Int) : Bool :=
  year % 4 = 0 && (year % 100 ≠ 0 || year % 400 = 0)

def daysInMonth (year : Int) (month : Nat) : Nat :=
  match month with
  | 2 => if isLeapYear year then 29 else 28
  | 4 | 6 | 9 | 11 => 30
  | _ => 31

/-- Days from 1 January of year 1 to 1 January of `year`. -/
def daysBeforeYear (year : Int) : Int :=
  let past := year - 1
  365 * past + past / 4 - past / 100 + past / 400

/-- Days from the start of the year to the start of the month, which is at least 1. -/
def daysBeforeMonth (year : Int) (month : Nat) : Nat :=
  (List.range' 1 (month - 1)).foldl (fun days month => days + daysInMonth year month) 0

def firstYear : Int := -262143

def lastYear : Int := 262142

structure Date where
  year : Int
  month : Nat
  day : Nat
deriving DecidableEq, Repr

namespace Date

/-- Whether the calendar has such a day. -/
def isValid (date : Date) : Bool :=
  firstYear ≤ date.year && date.year ≤ lastYear && 1 ≤ date.month && date.month ≤ 12 &&
    1 ≤ date.day && date.day ≤ daysInMonth date.year date.month

def daysBeforeEpoch : Int := daysBeforeYear 1970

/-- Days since 1 January 1970. -/
def dayNumber (date : Date) : Int :=
  daysBeforeYear date.year - daysBeforeEpoch + daysBeforeMonth date.year date.month + date.day - 1

end Date

end SearchQuery.Calendar
