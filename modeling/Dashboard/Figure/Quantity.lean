import Dashboard.Binary64.Basic
import Dashboard.Count
/-!
# Sizes, abbreviated counts and shares

A count in a larger unit is shown with one decimal, rounded half up. The unit is chosen after
rounding, so no figure ever reads as a full larger unit. A share is a whole number of hundredths,
computed with doubles: both amounts are rounded to doubles, as are the product with one hundred and
the quotient, and a half is rounded up.

* `tenths`, `decimal` — a figure with one decimal, `inUnits` — in the first unit that suits it.
* `bytes` — a number of bytes in B, KB, MB or GB, with steps of 1024.
* `abbreviated` — a count as it is, in k or in M, with steps of 1000.
* `share` — a part of a total in hundredths.
-/

namespace Dashboard.Figure

/-- `value / unit` in tenths, rounded half up. -/
def tenths (value unit : Nat) : Nat :=
  min ((value * 10 + unit / 2) / unit) Count.max

/-- Tenths as a figure with one decimal. -/
def decimal (t : Nat) : String :=
  toString (t / 10) ++ "." ++ toString (t % 10)

/-- `value` in the first of `units` whose rounded figure stays below `step`, or in the last one. -/
def inUnits (value step : Nat) : List (Nat × String) → String
  | [] => ""
  | [(unit, name)] => decimal (tenths value unit) ++ name
  | (unit, name) :: next :: rest =>
    if tenths value unit < step * 10 then decimal (tenths value unit) ++ name
    else inUnits value step (next :: rest)

/-- The units above one byte. -/
def byteUnits : List (Nat × String) :=
  [(1024, " KB"), (1048576, " MB"), (1073741824, " GB")]

/-- The units above one. -/
def countUnits : List (Nat × String) :=
  [(1000, "k"), (1000000, "M")]

/-- A number of bytes, such as `512 B` or `2.0 KB`. -/
def bytes (n : Nat) : String :=
  if n < 1024 then toString n ++ " B" else inUnits n 1024 byteUnits

/-- An abbreviated count, such as `950` or `12.3k`. -/
def abbreviated (n : Nat) : String :=
  if n < 1000 then toString n else inUnits n 1000 countUnits

/-- How many hundredths of `total` are `part`; 0 if there is nothing to have a share in. -/
def share (part total : Nat) : Nat :=
  if total = 0 then 0
  else
    let quotient : Option Magnitude := do
      let hundredfold ← (← Magnitude.ofNat? part).mulNat? 100
      hundredfold.div? (← Magnitude.ofNat? total)
    (quotient.map Magnitude.round).getD 0

end Dashboard.Figure
