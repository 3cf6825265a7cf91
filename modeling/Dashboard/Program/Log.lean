import Dashboard.Machine.Path
import Dashboard.Notice
import Dashboard.Settings.Location
import Dashboard.Time.Calendar
import Dashboard.Time.Instant
/-!
# The log

Notices go to a file of the day, one on a line.

* `Log.directory` — the directory of the log.
* `Log.fileName` — the file of a day.
* `Log.line` — a notice as it is written.
-/

namespace Dashboard.Program.Log

/-- The directory of the log. -/
def directory (s : Surroundings) : String :=
  Path.join (Path.join (s.dataDirectory.getD ".") "devboard") "logs"

/-- A number with leading zeros up to a width. -/
def padded (width n : Nat) : String :=
  let digits := toString n
  String.ofList (List.replicate (width - digits.length) '0') ++ digits

/-- The file of the day of an instant. -/
def fileName (t : Time.Instant) : String :=
  let (year, month, day) :=
    Time.dateOfDay (Time.epochDay + (t.seconds / Time.secondsPerDay).toNat)
  "devboard.log." ++ padded 4 year ++ "-" ++ padded 2 month ++ "-" ++ padded 2 day

/-- A notice as it is written. -/
def line (n : Notice) : String := n.level.name ++ " " ++ n.text ++ "\n"

end Dashboard.Program.Log
