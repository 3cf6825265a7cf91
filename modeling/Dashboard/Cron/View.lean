import Dashboard.Cron.Control
import Dashboard.Cron.Snapshot
import Dashboard.Figure.Duration
import Dashboard.Markup.Fragment
import Dashboard.Time.Instant
/-!
# The view of the job tab

The jobs with a switch for the scheduler, and their past runs with a choice of how many are listed.
-/

namespace Dashboard.Cron

open Markup Markup.Node

/-- A state in words, with a class of its own. -/
def statusMark (classes word : String) : Node Empty :=
  classed .span ("status " ++ classes) [text word]

/-- The state of a job. -/
def Job.status (j : Job) : Node Empty :=
  if j.running then statusMark "status-running" "running"
  else if j.enabled then statusMark "status-enabled" "enabled"
  else statusMark "status-disabled" "disabled"

/-- The row of a job. -/
def Job.row (j : Job) (now : Time.Instant) : Node Empty :=
  tableRow
    [ [toggle Verb.toggleJob.word j.enabled [("name", j.name)]]
    , text j.name :: j.description.toList.map fun d => classed .div "muted" [text d]
    , [labelled .code j.schedule]
    , [j.status]
    , [text (Time.relativeOr j.lastRun now "never")]
    , [text (Time.relativeOr j.nextRun now "-")]
    , [actionButton "Run now" Verb.runNow.word [("name", j.name)]] ]

/-- The outcome of a run. -/
def Run.result (r : Run) : Node Empty :=
  if r.success then statusMark "status-ok" "ok"
  else
    element .span [.plain .classes "status status-failed", .plain .title (r.error.getD "failed")]
      [text "failed"]

/-- The row of a run. -/
def Run.row (r : Run) (now : Time.Instant) : Node Empty :=
  tableRow
    [ [text r.job]
    , [text (Time.relativeOr r.startedAt now "-")]
    , [text ((r.duration.map Figure.duration).getD "-")]
    , [r.result] ]

/-- The switch of the scheduler. -/
def schedulerSwitch : Option Bool → Node Empty
  | some on =>
    classed .label "scheduler-toggle"
      [ toggle Verb.toggleScheduler.word on []
      , text (" Scheduler " ++ if on then "enabled" else "paused") ]
  | none => classed .span "muted" [text "Scheduler state unavailable"]

/-- The limits that are always offered, in ascending order. -/
def usualLimits : List Nat := [10, 20, 50, 100]

/-- The limits that are offered: the usual ones and the one in force, in ascending order. -/
def offeredLimits (limit : Nat) : List Nat :=
  if usualLimits.contains limit then usualLimits
  else usualLimits.takeWhile (· < limit) ++ limit :: usualLimits.dropWhile (· < limit)

/-- The choice of the number of runs that are listed. -/
def limitChoice (limit : Nat) : Node Empty :=
  choice Verb.setHistoryLimit.word
    ((offeredLimits limit).map fun n => (toString n, "Last " ++ toString n)) (toString limit)

/-- The view of a snapshot with the limit in force. -/
def Snapshot.view (s : Snapshot) (limit : Nat) (now : Time.Instant) : List (Node Empty) :=
  [ panelSectionWith "Jobs"
      [schedulerSwitch s.scheduler, actionButton "Refresh" Verb.refresh.word []]
      [ if s.jobs.isEmpty then emptyState "watch" "No scheduled jobs"
        else
          table "cron-jobs" ["", "Job", "Schedule", "Status", "Last run", "Next run", ""]
            (s.jobs.map (·.row now)) ]
  , panelSectionWith "History" [limitChoice limit]
      [ if s.history.isEmpty then emptyState "history" "No runs recorded yet"
        else
          table "cron-history" ["Job", "Started", "Duration", "Result"]
            (s.history.map (·.row now)) ] ]

/-- The style sheet of the tab. -/
def styles : String :=
  ".cron-jobs td:first-child \x7b width: 1.5em; \x7d\n" ++
  ".scheduler-toggle \x7b margin-right: 0.75em; \x7d"

end Dashboard.Cron
