import Dashboard.Count
import Dashboard.Settings.Basic
/-!
# Where settings are read from

Settings are a record of records, whatever the format in which they are written. What is absent is
as in the default settings, and what no setting is called is passed over.

* `Settings.Source` — how values of a format are taken apart.
* `Source.settings?` — the settings that a value gives.
-/

namespace Dashboard.Settings

/-- The fields of a record by name and place; none in the inner option where there is no such
    field, none in the outer one where the record cannot be read. -/
abbrev Record (α : Type) := String → Nat → Option (Option α)

/-- How the values of a format are taken apart. -/
structure Source (α : Type) where
  /-- The fields of a record that has this many fields. -/
  record? : Nat → α → Option (Record α)
  /-- The items of a list. -/
  items? : α → Option (List α)
  /-- A text. -/
  text? : α → Option String
  /-- A number that is not negative. -/
  count? : α → Option Nat
  /-- One of a fixed set of names. -/
  name? : α → Option String

namespace Source

variable {α : Type} (source : Source α)

/-- A field read with `read?`, or the default if it is absent. -/
def field? {β : Type} (record : Record α) (name : String) (place : Nat) (default : β)
    (read? : α → Option β) : Option β := do
  match ← record name place with
  | some x => read? x
  | none => some default

/-- A number up to `bound`. -/
def atMost? (bound : Nat) (x : α) : Option Nat := (source.count? x).filter (· ≤ bound)

/-- The addresses of the daemons. -/
def endpoints? (x : α) : Option Endpoints := do
  let record ← source.record? 5 x
  let address (name : String) (place : Nat) (d : Daemon) :=
    field? record name place (Endpoints.defaultFor d) source.text?
  return { cron := ← address "cron" 0 .cron
           stats := ← address "stats" 1 .stats
           slop := ← address "slop" 2 .slop
           tools := ← address "tools" 3 .tools
           context := ← address "context" 4 .context }

/-- How calls are made: the time that they may take and the cap of failures. -/
def behavior? (x : α) : Option (Nat × Nat) := do
  let record ← source.record? 2 x
  return (← field? record "call_timeout_ms" 0 defaultCallTimeout (source.atMost? Count.max),
    ← field? record "max_retries" 1 defaultMaxRetries (source.atMost? Count.smallMax))

/-- The daemons of a list, in order. -/
def order? (x : α) : Option (List Daemon) := do
  (← source.items? x).mapM fun item => (source.name? item).bind Daemon.ofName?

/-- Which tabs there are: their order and the limit of past runs. -/
def tabs? (x : α) : Option (List Daemon × Nat) := do
  let record ← source.record? 2 x
  return (← field? record "order" 0 Daemon.all source.order?,
    ← field? record "history_limit" 1 defaultHistoryLimit (source.atMost? Count.smallMax))

/-- The settings that a value gives. -/
def settings? (x : α) : Option Settings := do
  let record ← source.record? 3 x
  let endpoints ← field? record "daemons" 0 Endpoints.default source.endpoints?
  let (callTimeout, maxRetries) ←
    field? record "behavior" 1 (defaultCallTimeout, defaultMaxRetries) source.behavior?
  let (order, historyLimit) ←
    field? record "tabs" 2 (Daemon.all, defaultHistoryLimit) source.tabs?
  return { endpoints, callTimeout, maxRetries, order, historyLimit }

end Source

end Dashboard.Settings
