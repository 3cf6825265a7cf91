import Dashboard.Payload
import Dashboard.Tab.Report
/-!
# What is known of the scheduled jobs

* `Cron.Job`, `Cron.Run` — a job and one of its past runs.
* `Cron.Snapshot` — the jobs and the runs, `Cron.Snapshot.ofReport` — as a load brought them.
-/

namespace Dashboard.Cron

/-- The method that lists the jobs. -/
def jobsMethod : String := "getJobs"

/-- The method that lists past runs. -/
def historyMethod : String := "getHistory"

/-- A scheduled job. -/
structure Job where
  name : String
  schedule : String
  enabled : Bool
  running : Bool
  lastRun : Option Time.Instant
  nextRun : Option Time.Instant
  description : Option String

namespace Job

def nameFields : Aliases := ["name", "id"]
def scheduleFields : Aliases := ["schedule", "cron", "expression"]
def enabledFields : Aliases := ["enabled", "active"]
def runningFields : Aliases := ["running", "isRunning", "is_running"]
def lastRunFields : Aliases := ["lastRun", "last_run", "lastRunAt"]
def nextRunFields : Aliases := ["nextRun", "next_run", "nextRunAt"]
def descriptionFields : Aliases := ["description"]

/-- The job that a value describes. A job without a name cannot be addressed and is none. -/
def ofJson? (x : Json) : Option Job :=
  (x.wordOf? nameFields).map fun name =>
    { name
      schedule := x.textOr scheduleFields ""
      enabled := x.truthOr enabledFields true
      running := x.truthOr runningFields false
      lastRun := x.instantOf? lastRunFields
      nextRun := x.instantOf? nextRunFields
      description := x.wordOf? descriptionFields }

end Job

/-- A past run of a job. -/
structure Run where
  job : String
  startedAt : Option Time.Instant
  /-- How long it took, in milliseconds. -/
  duration : Option Nat
  success : Bool
  error : Option String

namespace Run

def jobFields : Aliases := ["job", "jobName", "job_name", "name"]
def startedAtFields : Aliases := ["startedAt", "started_at", "timestamp"]
def durationFields : Aliases := ["durationMs", "duration_ms", "duration"]
def successFields : Aliases := ["success", "ok"]
def errorFields : Aliases := ["error", "message"]

/-- The run that a value describes. It succeeded if nothing says otherwise and there is no error. -/
def ofJson (x : Json) : Run :=
  let error := x.wordOf? errorFields
  { job := x.textOr jobFields "unknown"
    startedAt := x.instantOf? startedAtFields
    duration := x.countOf? durationFields
    success := x.truthOr successFields error.isNone
    error }

end Run

/-- What the daemon told about its jobs. -/
structure Snapshot where
  /-- Whether the scheduler runs jobs at all, if the list of jobs came. -/
  scheduler : Option Bool := none
  jobs : List Job := []
  history : List Run := []

namespace Snapshot

def schedulerFields : Aliases := ["schedulerEnabled", "scheduler_enabled", "enabled"]
def jobsFields : Aliases := ["jobs"]
def historyFields : Aliases := ["history", "entries", "runs"]

/-- The jobs in a list. -/
def jobsOf (x : Json) : List Job := (x.listing jobsFields).filterMap Job.ofJson?

/-- The runs in a list. -/
def historyOf (x : Json) : List Run := (x.listing historyFields).map Run.ofJson

/-- What a load brought; a part whose call failed is empty. -/
def ofReport (r : Tab.Report) : Snapshot where
  scheduler := (r.data? jobsMethod).map fun x => x.truthOr schedulerFields true
  jobs := ((r.data? jobsMethod).map jobsOf).getD []
  history := ((r.data? historyMethod).map historyOf).getD []

def job? (s : Snapshot) (name : String) : Option Job := s.jobs.find? (·.name == name)

def runningCount (s : Snapshot) : Nat := (s.jobs.filter (·.running)).length

def enabledCount (s : Snapshot) : Nat := (s.jobs.filter (·.enabled)).length

end Snapshot

end Dashboard.Cron
