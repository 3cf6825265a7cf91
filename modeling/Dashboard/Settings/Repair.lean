import Dashboard.Cron.State
import Dashboard.Notice
import Dashboard.Settings.Endpoint
/-!
# Settings that cannot stand

Settings are taken from a file that anyone may write. What cannot stand in them is replaced, and for
each replacement there is a problem to tell. A daemon that is listed twice is listed once
afterwards, of which nothing is told.

* `Settings.Problem` — what was replaced, with its wording.
* `Settings.repair` — the settings that stand, and the problems that there were.
-/

namespace Dashboard.Settings

/-- Something in the settings that cannot stand. -/
inductive Problem where
  | endpoint (daemon : Daemon) (reason : Endpoint.Flaw)
  | callTimeout
  | maxRetries
  | noHistory
  | tooMuchHistory (limit : Nat)
  | noTabs
  deriving DecidableEq, Repr

/-- The wording of a problem. -/
def Problem.message : Problem → String
  | endpoint d reason =>
    "daemons." ++ d.name ++ ": " ++ reason.message ++ " (using " ++ Endpoints.defaultFor d ++ ")"
  | callTimeout => "behavior.call_timeout_ms must be positive"
  | maxRetries => "behavior.max_retries must be at least 1"
  | noHistory => "tabs.history_limit must be at least 1"
  | tooMuchHistory limit =>
    "tabs.history_limit " ++ toString limit ++ " exceeds " ++ toString Cron.maxHistoryLimit
  | noTabs => "tabs.order is empty, showing every tab"

/-- A problem as it is noted. -/
def Problem.notice (p : Problem) : Notice := .warning ("config: " ++ p.message)

/-- The address of a daemon that stands: a blank one, or one that can be called. -/
def repairEndpoint (d : Daemon) (address : String) : String × List Problem :=
  if Text.isBlankText address then (address, [])
  else
    match Endpoint.validate address with
    | .ok _ => (address, [])
    | .error reason => (Endpoints.defaultFor d, [.endpoint d reason])

/-- A number that stands unless it is zero. -/
def repairZero (default : Nat) (problem : Problem) (n : Nat) : Nat × List Problem :=
  if n = 0 then (default, [problem]) else (n, [])

/-- A limit of past runs that is neither zero nor too large. -/
def repairHistoryLimit (n : Nat) : Nat × List Problem :=
  if n = 0 then (defaultHistoryLimit, [.noHistory])
  else if Cron.maxHistoryLimit < n then (Cron.maxHistoryLimit, [.tooMuchHistory n])
  else (n, [])

/-- An order of tabs with each daemon once, and with some daemon. -/
def repairOrder (order : List Daemon) : List Daemon × List Problem :=
  if order.isEmpty then (Daemon.all, [.noTabs]) else (order.eraseDups, [])

/-- The settings that stand, and what had to be replaced in the settings that were given. -/
def repair (s : Settings) : Settings × List Problem :=
  let endpoint (d : Daemon) := repairEndpoint d (s.endpoints.get d)
  let timeout := repairZero defaultCallTimeout .callTimeout s.callTimeout
  let retries := repairZero defaultMaxRetries .maxRetries s.maxRetries
  let history := repairHistoryLimit s.historyLimit
  let order := repairOrder s.order
  ({ endpoints := Endpoints.ofFunction fun d => (endpoint d).1
     callTimeout := timeout.1
     maxRetries := retries.1
     order := order.1
     historyLimit := history.1 },
   Daemon.all.flatMap (fun d => (endpoint d).2) ++ timeout.2 ++ retries.2 ++ history.2 ++ order.2)

end Dashboard.Settings
