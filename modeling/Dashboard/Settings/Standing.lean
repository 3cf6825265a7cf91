import Dashboard.Settings.Repair
/-!
# Settings that stand

Which settings a repair leaves alone, and what it makes of others, told without the repair.

* `Endpoint.Stands`, `Settings.Stands` — addresses and settings that stand.
* `Settings.IsFirsts` — the elements of a list, each at the place where it comes first.
* `Settings.Mends` — what becomes of each field, whether it stands or not.
-/

namespace Dashboard

/-- An address stands if it is blank or can be called. -/
def Endpoint.Stands (address : String) : Prop :=
  Text.isBlankText address = true ∨ ∃ url, Endpoint.validate address = .ok url

namespace Settings

/-- Settings stand if each field does. -/
structure Stands (s : Settings) : Prop where
  endpoints : ∀ d, Endpoint.Stands (s.endpoints.get d)
  callTimeout : 0 < s.callTimeout
  maxRetries : 0 < s.maxRetries
  historyLimit : 1 ≤ s.historyLimit ∧ s.historyLimit ≤ Cron.maxHistoryLimit
  order : s.order ≠ [] ∧ s.order.Nodup

/-- A list has the elements of another, in the order in which they come there first. -/
def IsFirsts (firsts order : List Daemon) : Prop :=
  (∀ d, d ∈ firsts ↔ d ∈ order) ∧ firsts.Pairwise fun d e => order.idxOf d < order.idxOf e

/-- What becomes of settings: what stands is kept, too large a limit is cut down, an order loses its
    repetitions, and anything else that does not stand is as in the default settings. -/
structure Mends (s t : Settings) : Prop where
  endpoint_kept : ∀ d, Endpoint.Stands (s.endpoints.get d) →
    t.endpoints.get d = s.endpoints.get d
  endpoint_replaced : ∀ d, ¬ Endpoint.Stands (s.endpoints.get d) →
    t.endpoints.get d = default.endpoints.get d
  callTimeout_kept : 0 < s.callTimeout → t.callTimeout = s.callTimeout
  callTimeout_replaced : s.callTimeout = 0 → t.callTimeout = default.callTimeout
  maxRetries_kept : 0 < s.maxRetries → t.maxRetries = s.maxRetries
  maxRetries_replaced : s.maxRetries = 0 → t.maxRetries = default.maxRetries
  historyLimit_kept : 1 ≤ s.historyLimit → s.historyLimit ≤ Cron.maxHistoryLimit →
    t.historyLimit = s.historyLimit
  historyLimit_cut : Cron.maxHistoryLimit < s.historyLimit → t.historyLimit = Cron.maxHistoryLimit
  historyLimit_replaced : s.historyLimit = 0 → t.historyLimit = default.historyLimit
  order_kept : s.order ≠ [] → s.order.Nodup → t.order = s.order
  order_firsts : s.order ≠ [] → IsFirsts t.order s.order
  order_replaced : s.order = [] → t.order = default.order

end Settings

end Dashboard
