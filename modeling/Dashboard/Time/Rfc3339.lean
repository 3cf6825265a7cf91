import Dashboard.Time.Instant
/-!
# Times in the notation of RFC 3339

`2024-05-01T12:00:00.5+02:00`: a date of four, two and two digits, a separator `T`, `t` or space,
a time of day, a fraction of any length of which nine digits count, and `Z`, `z` or an offset. Second
60 is a leap second: it is kept as second 59 with a fraction of one second or more.

* `readInstant?` — the instant a text denotes, none for any other text.
-/

namespace Dashboard.Time.Rfc3339

/-- The value of a digit 0 to 9. -/
def digit? (c : Char) : Option Nat :=
  if c.isDigit then some (c.toNat - '0'.toNat) else none

/-- Exactly `n` digits. -/
def digits? (n : Nat) (cs : List Char) : Option (Nat × List Char) :=
  go n 0 cs
where
  go : Nat → Nat → List Char → Option (Nat × List Char)
    | 0, acc, cs => some (acc, cs)
    | n + 1, acc, c :: cs => do go n (acc * 10 + (← digit? c)) cs
    | _ + 1, _, [] => none

/-- A given character. -/
def char? (expected : Char) : List Char → Option (List Char)
  | c :: cs => if c = expected then some cs else none
  | [] => none

/-- A date of the calendar. -/
def date? (cs : List Char) : Option ((Nat × Nat × Nat) × List Char) := do
  let (year, cs) ← digits? 4 cs
  let (month, cs) ← digits? 2 (← char? '-' cs)
  let (day, cs) ← digits? 2 (← char? '-' cs)
  guard (isDate year month day)
  return ((year, month, day), cs)

/-- The separator between date and time of day. -/
def separator? : List Char → Option (List Char)
  | c :: cs => if c = 'T' ∨ c = 't' ∨ c = ' ' then some cs else none
  | [] => none

/-- A time of day without its fraction; second 60 is allowed in every minute. -/
def clock? (cs : List Char) : Option ((Nat × Nat × Nat) × List Char) := do
  let (hour, cs) ← digits? 2 cs
  let (minute, cs) ← digits? 2 (← char? ':' cs)
  let (second, cs) ← digits? 2 (← char? ':' cs)
  guard (hour < 24 ∧ minute < 60 ∧ second ≤ 60)
  return ((hour, minute, second), cs)

/-- The nanoseconds of the digits of a fraction: the first nine count. -/
def nanosOfDigits (ds : List Char) : Nat :=
  (ds.take 9 ++ List.replicate (9 - ds.length) '0').foldl
    (fun acc c => acc * 10 + (c.toNat - '0'.toNat)) 0

/-- A fraction of a second, if there is one. -/
def fraction? : List Char → Option (Nat × List Char)
  | '.' :: cs =>
    let ds := cs.takeWhile Char.isDigit
    if ds.isEmpty then none else some (nanosOfDigits ds, cs.dropWhile Char.isDigit)
  | cs => some (0, cs)

/-- The sign of an offset; the minus sign U+2212 is allowed beside the hyphen. -/
def sign? : List Char → Option (Int × List Char)
  | '+' :: cs => some (1, cs)
  | '-' :: cs => some (-1, cs)
  | '\u2212' :: cs => some (-1, cs)
  | _ => none

/-- An offset from UTC, in seconds. -/
def offset? (cs : List Char) : Option (Int × List Char) :=
  match cs with
  | 'Z' :: cs => some (0, cs)
  | 'z' :: cs => some (0, cs)
  | _ => do
    let (sign, cs) ← sign? cs
    let (hours, cs) ← digits? 2 cs
    let (minutes, cs) ← digits? 2 (← char? ':' cs)
    guard (hours < 24 ∧ minutes < 60)
    return (sign * (hours * 3600 + minutes * 60), cs)

/-- The instant of a date and a time of day at an offset from UTC. -/
def instantOf (year month day hour minute second nanos : Nat) (offset : Int) : Instant :=
  let leap := second = 60
  { seconds := daysSinceEpoch year month day * secondsPerDay +
      (hour * 3600 + minute * 60 + (if leap then 59 else second) : Nat) - offset
    nanos := if leap then nanos + Instant.nanosPerSecond else nanos }

/-- `readInstant?` on characters. -/
def readChars? (cs : List Char) : Option Instant := do
  let ((year, month, day), cs) ← date? cs
  let cs ← separator? cs
  let ((hour, minute, second), cs) ← clock? cs
  let (nanos, cs) ← fraction? cs
  let (offset, cs) ← offset? cs
  guard cs.isEmpty
  return instantOf year month day hour minute second nanos offset

/-- The instant that a text in this notation denotes. -/
def readInstant? (s : String) : Option Instant :=
  readChars? s.toList

end Dashboard.Time.Rfc3339
