import Dashboard.Time.Instant
import Mathlib.Algebra.Group.Int.Defs
import Mathlib.Algebra.Group.Nat.Defs
/-!
# Written times

What a time in the form of RFC 3339 says, how it is written, and which instant it denotes: the days
since 1970-01-01 are counted one by one, and nothing is rounded.

* `Date` — a date that the calendar has, `Date.next` — the day after it, `Date.afterEpoch` — the date
  so many days after 1970-01-01.
* `Instant.ofMillis` — an instant told in milliseconds.
* `Stamp` — a time of day on a date in a zone, with a fraction of any number of digits.
* `Stamp.text` — how it is written.
* `Stamp.Denotes` — the number of milliseconds since the epoch that it denotes.
-/

namespace Dashboard.Time

/-! ### Dates -/

theorem isDate_iff {year month day : Nat} :
    isDate year month day = true ↔ 1 ≤ day ∧ day ≤ daysInMonth year month := by
  rw [isDate, Bool.and_eq_true, decide_eq_true_eq, decide_eq_true_eq]

/-- Every month has a first day. -/
theorem one_le_daysInMonth (year : Nat) {month : Nat} (hlow : 1 ≤ month) (hhigh : month ≤ 12) :
    1 ≤ daysInMonth year month := by
  unfold daysInMonth
  split
  case h_12 => cases isLeapYear year <;> decide
  case h_13 =>
    simp only [imp_false] at *
    omega
  all_goals decide

theorem daysInMonth_le (year month : Nat) : daysInMonth year month ≤ 31 := by
  unfold daysInMonth
  split
  case h_12 => cases isLeapYear year <;> decide
  all_goals decide

/-- What has a day is one of the twelve months. -/
theorem month_of_isDate {year month day : Nat} (h : isDate year month day = true) :
    1 ≤ month ∧ month ≤ 12 := by
  obtain ⟨hlow, hhigh⟩ := isDate_iff.mp h
  have hdays : 1 ≤ daysInMonth year month := Nat.le_trans hlow hhigh
  unfold daysInMonth at hdays
  split at hdays
  all_goals omega

/-- A date of the proleptic Gregorian calendar, from year 0 on. -/
structure Date where
  year : Nat
  month : Nat
  day : Nat
  valid : isDate year month day = true
  deriving DecidableEq, Repr

namespace Date

/-- The day from which instants are counted. -/
def epoch : Date := ⟨1970, 1, 1, rfl⟩

/-- The day after a date: the next of its month, else the first of the next month, else the first
    of the next year. -/
def next (d : Date) : Date :=
  if hday : d.day < daysInMonth d.year d.month then
    ⟨d.year, d.month, d.day + 1, isDate_iff.mpr ⟨Nat.le_add_left 1 d.day, hday⟩⟩
  else if hmonth : d.month < 12 then
    ⟨d.year, d.month + 1, 1, isDate_iff.mpr
      ⟨Nat.le_refl 1, one_le_daysInMonth d.year (Nat.le_add_left 1 d.month) hmonth⟩⟩
  else ⟨d.year + 1, 1, 1, isDate_iff.mpr
    ⟨Nat.le_refl 1, one_le_daysInMonth _ (Nat.le_refl 1) (by decide)⟩⟩

/-- The date so many days after 1970-01-01. -/
def afterEpoch : Nat → Date
  | 0 => epoch
  | days + 1 => (afterEpoch days).next

end Date

/-! ### Times of day on a date -/

/-- The instant so many milliseconds after the epoch. -/
def Instant.ofMillis (millis : Nat) : Instant :=
  { seconds := (millis / 1000 : Nat), nanos := millis % 1000 * 1000000 }

/-- What stands between the date and the time of day. -/
inductive Separator where
  | upperT
  | lowerT
  | space
  deriving DecidableEq, Repr

def Separator.char : Separator → Char
  | upperT => 'T'
  | lowerT => 't'
  | space => ' '

/-- How far the clocks of a place are ahead of UTC or behind it. -/
inductive Zone where
  | upperZ
  | lowerZ
  | ahead (hours : Fin 24) (minutes : Fin 60)
  | behind (hours : Fin 24) (minutes : Fin 60)
  deriving DecidableEq, Repr

/-- A number in exactly so many digits, with zeros in front. -/
def fixedDigits : Nat → Nat → List Char
  | 0, _ => []
  | width + 1, n => (n / 10 ^ width % 10).digitChar :: fixedDigits width n

namespace Zone

def chars : Zone → List Char
  | upperZ => ['Z']
  | lowerZ => ['z']
  | ahead hours minutes => '+' :: (fixedDigits 2 hours ++ ':' :: fixedDigits 2 minutes)
  | behind hours minutes => '-' :: (fixedDigits 2 hours ++ ':' :: fixedDigits 2 minutes)

/-- Seconds that the clocks of the place are ahead of UTC. -/
def offset : Zone → Int
  | upperZ => 0
  | lowerZ => 0
  | ahead hours minutes => hours * 3600 + minutes * 60
  | behind hours minutes => -(hours * 3600 + minutes * 60)

end Zone

/-- A written time. -/
structure Stamp where
  date : Date
  year_le : date.year ≤ 9999
  separator : Separator
  hour : Fin 24
  minute : Fin 60
  second : Fin 60
  /-- The digits behind the point; without any there is no point. -/
  fraction : List (Fin 10)
  zone : Zone

namespace Stamp

def fractionChars (t : Stamp) : List Char :=
  if t.fraction = [] then [] else '.' :: t.fraction.map fun d => d.val.digitChar

def chars (t : Stamp) : List Char :=
  fixedDigits 4 t.date.year ++ '-' :: fixedDigits 2 t.date.month ++
    '-' :: fixedDigits 2 t.date.day ++ t.separator.char :: fixedDigits 2 t.hour ++
    ':' :: fixedDigits 2 t.minute ++ ':' :: fixedDigits 2 t.second ++ t.fractionChars ++
    t.zone.chars

/-- The stamp as it is written. -/
def text (t : Stamp) : String := String.ofList t.chars

/-- The digits of the fraction as a whole number. -/
def fractionNumber (t : Stamp) : Nat := t.fraction.foldl (fun n d => n * 10 + d.val) 0

/-- Seconds since midnight. -/
def secondOfDay (t : Stamp) : Nat := t.hour * 3600 + t.minute * 60 + t.second

/-- The stamp denotes the time so many milliseconds after the epoch. Both sides are multiplied by a
    power of ten, so that the fraction is whole. -/
def Denotes (t : Stamp) (millis : Nat) : Prop :=
  ∃ days, Date.afterEpoch days = t.date ∧
    1000 * ((days * secondsPerDay + t.secondOfDay - t.zone.offset) * 10 ^ t.fraction.length +
      t.fractionNumber : Int) = millis * 10 ^ t.fraction.length

/-- The first second after the last year of four digits. -/
def endOfYears : Int := daysSinceEpoch 10000 1 1 * secondsPerDay

end Stamp

end Dashboard.Time
