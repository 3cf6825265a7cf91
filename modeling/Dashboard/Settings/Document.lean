import Dashboard.Settings.Repair
import Dashboard.Settings.Source
import Dashboard.Toml.Parser
/-!
# The document of settings

Settings are kept as a TOML document.

* `Settings.ofToml?` — the settings that a value gives. A record may be written as an array of its
  fields in order, and a date, which has no fields, is a record with nothing said.
* `Settings.parse` — the settings that stand, from the text of a document.
* `Settings.template` — a document with the default settings.
-/

namespace Dashboard.Settings

open Toml (Value)

/-- One of a fixed set of names: a text, or a table with that name and nothing in it. -/
def name? : Value → Option String
  | .string s => some s
  | .table [(s, .array [])] => some s
  | .table [(s, .table [])] => some s
  | _ => none

/-- How TOML values are taken apart. -/
def Source.toml : Source Value where
  record? _
    | .table ms => some fun name _ => some ((ms.find? (·.1 == name)).map (·.2))
    | .array vs => some fun _ place => some vs[place]?
    | .moment _ => some fun _ _ => some none
    | _ => none
  items?
    | .array vs => some vs
    | _ => none
  text?
    | .string s => some s
    | _ => none
  count?
    | .integer n => if 0 ≤ n then some n.toNat else none
    | _ => none
  name? := Settings.name?

/-- The settings that a value gives. -/
def ofToml? (v : Value) : Option Settings := Source.toml.settings? v

/-- The settings that stand, from the text of a document, and the problems that there were. -/
def parse (text : String) : Except Fault (Settings × List Problem) :=
  match (Toml.read? text).bind ofToml? with
  | some s => .ok s.repair
  | none => .error (.configInvalid "not a document of settings")

/-- The lines of a document with the default settings. -/
def templateLines : List String := [
  "# devboard configuration",
  "",
  "[daemons]",
  "# WebSocket JSON-RPC endpoint of each daemon. Leave empty to disable.",
  "cron = \"ws://127.0.0.1:7401\"",
  "stats = \"ws://127.0.0.1:7402\"",
  "slop = \"ws://127.0.0.1:7403\"",
  "tools = \"ws://127.0.0.1:7404\"",
  "context = \"ws://127.0.0.1:7405\"",
  "",
  "[behavior]",
  "call_timeout_ms = 10000   # Per-call timeout",
  "max_retries = 3           # Failure counter cap shown in error views",
  "",
  "[tabs]",
  "order = [\"cron\", \"stats\", \"slop\", \"tools\", \"context\"]",
  "history_limit = 20        # Cron history entries (1-500)"]

/-- A document with the default settings. -/
def template : String := String.join (templateLines.map (· ++ "\n"))

end Dashboard.Settings
