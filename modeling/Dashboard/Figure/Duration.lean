import Dashboard.Figure.Quantity
/-!
# Durations

A number of milliseconds as `850ms`, `4.2s`, `3m 05s` or `1h 02m`. The unit is chosen after
rounding, so 59 999 ms reads `1m 00s`.
-/

namespace Dashboard.Figure

/-- A number below one hundred with two digits. -/
def twoDigits (n : Nat) : String :=
  if n < 10 then "0" ++ toString n else toString n

/-- The text of a duration given in milliseconds. -/
def duration (ms : Nat) : String :=
  if ms < 1000 then toString ms ++ "ms"
  else if tenths ms 1000 < 600 then decimal (tenths ms 1000) ++ "s"
  else
    let seconds := Count.add ms 500 / 1000
    if seconds < 3600 then toString (seconds / 60) ++ "m " ++ twoDigits (seconds % 60) ++ "s"
    else
      let minutes := Count.add ms 30000 / 60000
      toString (minutes / 60) ++ "h " ++ twoDigits (minutes % 60) ++ "m"

end Dashboard.Figure
