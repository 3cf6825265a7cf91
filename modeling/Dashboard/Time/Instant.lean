import Dashboard.Time.Calendar
/-!
# Instants

* `Instant` — whole seconds since the epoch and a fraction in nanoseconds. The fraction of an
  instant within a leap second is one second or more.
* `Instant.secondsUntil` — whole seconds between two instants, toward zero.
* `Instant.ofEpoch?` — an instant given as a number whose unit is told from its size.
* `relative` — how long ago an instant was, or how far ahead it lies, in the largest unit of which it
  holds at least one: `45s ago`, `in 2h`, and `just now` or `in a moment` below ten seconds.
-/

namespace Dashboard.Time

/-- A point in time. -/
structure Instant where
  seconds : Int
  nanos : Nat := 0
  deriving DecidableEq, Repr

namespace Instant

def nanosPerSecond : Nat := 1000000000

/-- The second of the day an instant falls into. -/
def secondOfDay (t : Instant) : Int :=
  t.seconds % secondsPerDay

/-- Whether the instant lies within a leap second. -/
def inLeapSecond (t : Instant) : Bool :=
  nanosPerSecond ≤ t.nanos

/-- The leap second that counts between two times of day: one that the earlier of them lies in. -/
def leapBetween (start finish : Instant) : Int :=
  if start.secondOfDay < finish.secondOfDay ∧ start.inLeapSecond then 1
  else if finish.secondOfDay < start.secondOfDay ∧ finish.inLeapSecond then -1
  else 0

/-- Nanoseconds from `start` to `finish`. -/
def nanosUntil (start finish : Instant) : Int :=
  (finish.seconds - start.seconds + leapBetween start finish) * nanosPerSecond +
    ((finish.nanos : Int) - start.nanos)

/-- Whole seconds from `start` to `finish`, negative if `finish` comes first, a fraction dropped. -/
def secondsUntil (start finish : Instant) : Int :=
  (nanosUntil start finish).tdiv nanosPerSecond

/-- Numbers below this are seconds since the epoch, from it on milliseconds. -/
def millisFrom : Int := 100000000000

/-- The first second after the last year that an instant can have, 262142. -/
def endOfTime : Int := daysSinceEpoch 262143 1 1 * secondsPerDay

/-- An instant given in seconds or milliseconds since the epoch. Zero and negative numbers stand
    for no time at all. -/
def ofEpoch? (n : Int) : Option Instant :=
  if n ≤ 0 then none
  else if n < millisFrom then some { seconds := n }
  else if n / 1000 < endOfTime then
    some { seconds := n / 1000, nanos := (n % 1000).toNat * 1000000 }
  else none

end Instant

/-- A span of seconds in its largest unit. -/
def spanText (seconds : Nat) : String :=
  if seconds < 60 then toString seconds ++ "s"
  else if seconds < 3600 then toString (seconds / 60) ++ "m"
  else if seconds < 86400 then toString (seconds / 3600) ++ "h"
  else toString (seconds / 86400) ++ "d"

/-- The place of `t` in time as seen from `now`. -/
def relative (t now : Instant) : String :=
  let elapsed := t.secondsUntil now
  let seconds := elapsed.natAbs
  if elapsed < 0 then
    if seconds < 10 then "in a moment" else "in " ++ spanText seconds
  else
    if seconds < 10 then "just now" else spanText seconds ++ " ago"

/-- The place of an instant in time, or `fallback` if it is not known. -/
def relativeOr (t : Option Instant) (now : Instant) (fallback : String) : String :=
  match t with
  | some t => relative t now
  | none => fallback

end Dashboard.Time
