import Dashboard.Wiring.Binding
/-!
# The controls of the job tab

* `Cron.Verb` — the commands that the tab knows.
* `Cron.bindings` — the elements that post them.
-/

namespace Dashboard.Cron

/-- A command of the tab. -/
inductive Verb where
  | refresh
  | retry
  | toggleScheduler
  | toggleJob
  | runNow
  | setHistoryLimit
  deriving DecidableEq, Repr

namespace Verb

def all : List Verb := [refresh, retry, toggleScheduler, toggleJob, runNow, setHistoryLimit]

/-- The name of the command. -/
def word : Verb → String
  | refresh => "refreshCron"
  | retry => "retryCron"
  | toggleScheduler => "toggleScheduler"
  | toggleJob => "toggleCronJob"
  | runNow => "runCronJobNow"
  | setHistoryLimit => "setCronHistoryLimit"

def ofWord? (s : String) : Option Verb := all.find? (·.word == s)

end Verb

/-- What the elements of the tab do. -/
def bindings : List Wiring.Binding :=
  [ .click Verb.refresh.word []
  , .click Verb.retry.word []
  , .click Verb.runNow.word ["name"]
  , .toggle Verb.toggleScheduler.word [] "enabled"
  , .toggle Verb.toggleJob.word ["name"] "enabled"
  , .choose Verb.setHistoryLimit.word "limit" ]

end Dashboard.Cron
