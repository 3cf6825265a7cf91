import Dashboard.Fault
import Dashboard.Text.Basic
/-!
# Daemons

The five background services that the dashboard asks, in the order in which they are listed
wherever all of them are.
-/

namespace Dashboard

/-- A background service. -/
inductive Daemon where
  /-- Runs scheduled jobs. -/
  | cron
  /-- Keeps usage figures and the memory store. -/
  | stats
  /-- Scans code for findings. -/
  | slop
  /-- Registers tool modules and configuration. -/
  | tools
  /-- Assembles the context of inference. -/
  | context
  deriving DecidableEq, Repr

namespace Daemon

def all : List Daemon := [cron, stats, slop, tools, context]

def name : Daemon → String
  | cron => "cron"
  | stats => "stats"
  | slop => "slop"
  | tools => "tools"
  | context => "context"

/-- The daemon with exactly this name. -/
def ofName? (s : String) : Option Daemon := all.find? (·.name == s)

/-- The daemon that a user names, up to case and white space around the name. -/
def parse (s : String) : Except Fault Daemon :=
  match all.find? fun d => Text.eqIgnoringCase d.name (Text.trim s) with
  | some d => .ok d
  | none => .error (.config ("unknown daemon '" ++ s ++ "'"))

theorem mem_all (d : Daemon) : d ∈ all := by cases d <;> decide

end Daemon

end Dashboard
