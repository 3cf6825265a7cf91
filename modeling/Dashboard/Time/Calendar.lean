/-!
# The Gregorian calendar

The proleptic Gregorian calendar from year 0 on, counted in days.

* `isLeapYear`, `daysInMonth` — the shape of a year.
* `daysBeforeYear`, `daysBeforeMonth` — days that have passed when a year or month begins.
* `daysSinceEpoch` — days from 1970-01-01 to a date, negative before it.
* `dateOfDay` — the date of a day, counted from the start of year 0.
-/

namespace Dashboard.Time

def isLeapYear (year : Nat) : Bool :=
  year % 4 == 0 && (year % 100 != 0 || year % 400 == 0)

/-- The number of days of a month, 0 for a number that is no month. -/
def daysInMonth (year month : Nat) : Nat :=
  match month with
  | 1 | 3 | 5 | 7 | 8 | 10 | 12 => 31
  | 4 | 6 | 9 | 11 => 30
  | 2 => if isLeapYear year then 29 else 28
  | _ => 0

/-- Days from the start of year 0 to the start of `year`. -/
def daysBeforeYear (year : Nat) : Nat :=
  year * 365 + (year + 3) / 4 - (year + 99) / 100 + (year + 399) / 400

/-- Days from the start of a year to the start of one of its months. -/
def daysBeforeMonth (year : Nat) : Nat → Nat
  | 0 => 0
  | 1 => 0
  | month + 2 => daysBeforeMonth year (month + 1) + daysInMonth year (month + 1)

/-- Days from the start of year 0 to 1970-01-01. -/
def epochDay : Nat := daysBeforeYear 1970

/-- Days from 1970-01-01 to a date. -/
def daysSinceEpoch (year month day : Nat) : Int :=
  (daysBeforeYear year + daysBeforeMonth year month + (day - 1) : Nat) - (epochDay : Int)

/-- A date that the calendar has. -/
def isDate (year month day : Nat) : Bool :=
  1 ≤ day && day ≤ daysInMonth year month

def secondsPerDay : Nat := 86400

/-- The last year up to `year` that has begun when `day` days have passed. -/
def yearUpTo (day : Nat) : Nat → Nat
  | 0 => 0
  | year + 1 => if daysBeforeYear (year + 1) ≤ day then year + 1 else yearUpTo day year

/-- The last month up to `month` that has begun when `day` days of a year have passed. -/
def monthUpTo (year day : Nat) : Nat → Nat
  | 0 => 1
  | month + 1 =>
    if daysBeforeMonth year (month + 1) ≤ day then month + 1 else monthUpTo year day month

/-- The year, the month and the day of a day, counted from the start of year 0. -/
def dateOfDay (day : Nat) : Nat × Nat × Nat :=
  let year := yearUpTo day (day / 365)
  let rest := day - daysBeforeYear year
  let month := monthUpTo year rest 12
  (year, month, rest - daysBeforeMonth year month + 1)

end Dashboard.Time
