import Dashboard.Binary64.Reading
import Dashboard.Figure.Quantity
import Mathlib.Data.List.Nodup
/-!
# Scales

A scale has a step and units of which each is the step times the one before. A number below the step
is shown as it is, and any other with one decimal in a unit of the scale.

* `Scale` — a step with its units, `Scale.counts`, `Scale.bytes` — the two scales of views.
* `Scale.text` — how a number is shown on a scale.
* `Scale.read?` — the amount that a text denotes.
* `RoundsTo` — what it means to be rounded half up, told without a division.
* `Scale.ShowsRounded` — what is asked of a way to show numbers on a scale.
-/

namespace Dashboard.Figure

/-- A step and the units that it leads to. -/
structure Scale where
  step : Nat
  /-- What stands behind a number that is shown as it is. -/
  ones : String
  /-- Size and name of the units, the smallest first. -/
  units : List (Nat × String)
  ten_lt_step : 10 < step
  units_ne_nil : units ≠ []
  climbs : ((1, ones) :: units).IsChain fun u v => v.1 = u.1 * step
  nodup_names : (units.map (·.2)).Nodup
  /-- What stands behind a number does not go on with the number. -/
  head_ones : ∀ c ∈ ones.toList.head?, c.isDigit = false ∧ c ≠ '.'

namespace Scale

/-- Counts as they are, in k and in M. -/
def counts : Scale where
  step := 1000
  ones := ""
  units := countUnits
  ten_lt_step := by decide
  units_ne_nil := by decide
  climbs := by decide
  nodup_names := by decide
  head_ones := by
    intro c hc
    rw [String.toList_ofList] at hc
    cases hc

/-- Sizes in B, KB, MB and GB. -/
def bytes : Scale where
  step := 1024
  ones := " B"
  units := byteUnits
  ten_lt_step := by decide
  units_ne_nil := by decide
  climbs := by decide
  nodup_names := by decide
  head_ones := by
    intro c hc
    rw [String.toList_ofList] at hc
    cases hc
    decide

/-- How a number is shown on a scale. -/
def text (s : Scale) (n : Nat) : String :=
  if n < s.step then toString n ++ s.ones else inUnits n s.step s.units

/-- The amount that a text denotes, in tenths of one. -/
def read? (s : Scale) (shown : String) : Option Nat :=
  let digits := shown.toList.takeWhile Char.isDigit
  match shown.toList.dropWhile Char.isDigit with
  | '.' :: tenth :: name => do
    let figure ← Reading.allDigits? (digits ++ [tenth])
    let u ← s.units.find? (·.2.toList = name)
    return figure * u.1
  | rest =>
    if rest = s.ones.toList then (Reading.allDigits? digits).map (· * 10) else none

end Scale

/-- Rounded half up, `n` is `t` tenths of a unit: it is at most half a tenth below, and less than half
    a tenth above. -/
def RoundsTo (n unit t : Nat) : Prop :=
  2 * (t * unit) ≤ 20 * n + unit ∧ 20 * n < 2 * (t * unit) + unit

/-- What is asked of a way to show numbers on a scale. -/
structure Scale.ShowsRounded (s : Scale) (shown : Nat → String) (n : Nat) : Prop where
  /-- Below the step the number is shown as it is. -/
  whole : n < s.step →
    shown n = toString n ++ s.ones ∧ s.read? (shown n) = some (n * 10)
  /-- From the step on it is shown in the first unit in which the rounded figure is below the step,
      or in the last unit. The figure is never below one. -/
  scaled : s.step ≤ n → ∃ before u after t,
    s.units = before ++ u :: after ∧ shown n = decimal t ++ u.2 ∧
      s.read? (shown n) = some (t * u.1) ∧ RoundsTo n u.1 t ∧ 10 ≤ t ∧
      (∀ v ∈ before, ∀ t', RoundsTo n v.1 t' → s.step * 10 ≤ t') ∧
      (after ≠ [] → t < s.step * 10)
  /-- Every rounded figure is a count. -/
  uncut : ∀ u ∈ s.units, (n * 10 + u.1 / 2) / u.1 ≤ Count.max
  ne_empty : shown n ≠ ""
  /-- A larger number never denotes less. -/
  ordered : ∀ later, n ≤ later → later ≤ Count.max →
    ∃ a b, s.read? (shown n) = some a ∧ s.read? (shown later) = some b ∧ a ≤ b

end Dashboard.Figure
