import Dashboard.Json.Record
import Dashboard.Settings.Source
/-!
# Settings in JSON

* `Settings.ofJson?` — the settings that a JSON value gives. A record may be written as an array of
  its fields in order, which may be cut short but not go on.
-/

namespace Dashboard.Settings

/-- How JSON values are taken apart. -/
def Source.json : Source Json where
  record? count x := ((Json.Fields.ofJson? x).filter (·.noMoreThan count)).map (·.get?)
  items?
    | .array xs => some xs
    | _ => none
  text? := Json.string?
  count?
    | .number n => n.count?
    | _ => none
  name? := Json.variant?

/-- The settings that a JSON value gives. -/
def ofJson? (x : Json) : Option Settings := Source.json.settings? x

end Dashboard.Settings
