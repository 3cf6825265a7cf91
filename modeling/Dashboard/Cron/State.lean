import Dashboard.Cron.View
import Dashboard.Tab.Content
import Dashboard.Tab.Reaction
/-!
# The job tab

* `Cron.State` — what the tab has loaded and how many past runs it asks for.
* `Cron.State.queries` — what a load asks.
* `Cron.State.react` — what a command does. It changes nothing but the limit and, when the user
  tries again after a failure, the count of failures.
-/

namespace Dashboard.Cron

def identity : Tab.Identity := ⟨"cron", "Cron", "watch"⟩

/-- The largest number of past runs that can be asked for. -/
def maxHistoryLimit : Nat := 500

/-- The number of past runs to ask for when a number is wished for. -/
def clampLimit (n : Nat) : Nat := max 1 (min n maxHistoryLimit)

/-- The tab. -/
structure State where
  load : Tab.LoadState Snapshot
  historyLimit : Nat

namespace State

open Tab

def new (cap historyLimit : Nat) : State := ⟨.new cap, clampLimit historyLimit⟩

/-- The calls of a load. -/
def queries (s : State) : List Query :=
  [ { method := jobsMethod }
  , { method := historyMethod, params := some (.object [("limit", .nat s.historyLimit)]) } ]

def badge (s : State) : Option Badge :=
  s.load.badge fun x =>
    if 0 < x.runningCount then some ⟨toString x.runningCount ++ " running", .running⟩
    else if 0 < x.enabledCount then some (.ofCount x.enabledCount)
    else none

def content (s : State) (now : Time.Instant) : Markup.Node Empty :=
  s.load.content
    { id := identity.id, retry := Verb.retry.word, what := "cron jobs"
      data := fun x => x.view s.historyLimit now }

/-- Asks the daemon to switch the scheduler. -/
def toggleScheduler (s : State) (c : Command) : Reaction :=
  match targetState? (c.truth? "enabled") (s.load.snapshot.bind (·.scheduler)) with
  | some on => .change ⟨.cron, "setSchedulerEnabled", some (.object [("enabled", .bool on)])⟩
  | none => .lacking c.name .targetState

/-- Asks the daemon to switch a job. -/
def toggleJob (s : State) (c : Command) : Reaction :=
  match c.word? "name" with
  | none => .lacking c.name .jobName
  | some name =>
    let present := (s.load.snapshot.bind (·.job? name)).map (·.enabled)
    match targetState? (c.truth? "enabled") present with
    | some on =>
      .change
        ⟨.cron, "setJobEnabled", some (.object [("enabled", .bool on), ("name", .string name)])⟩
    | none => .lackingFor c.name ("for unknown job " ++ name) .targetState

/-- Asks the daemon to run a job. -/
def runNow (c : Command) : Reaction :=
  match c.word? "name" with
  | none => .lacking c.name .jobName
  | some name => .change ⟨.cron, "runJobNow", some (.object [("name", .string name)])⟩

/-- What a command does. -/
def react (s : State) (c : Command) : State × Reaction :=
  match Verb.ofWord? c.name with
  | none => (s, .ignored none)
  | some .refresh => (s, .reload)
  | some .retry => ({ s with load := s.load.resetAttempts }, .reload)
  | some .toggleScheduler => (s, s.toggleScheduler c)
  | some .toggleJob => (s, s.toggleJob c)
  | some .runNow => (s, runNow c)
  | some .setHistoryLimit =>
    match c.count? "limit" with
    | none => (s, .lacking c.name .limit)
    | some n => ({ s with historyLimit := clampLimit n }, .reload)

end State

end Dashboard.Cron
