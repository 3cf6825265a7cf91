import Dashboard.Tab
/-!
# What a user has chosen in a tab

Beside what was loaded, a tab keeps what its user has chosen: how many past runs to ask for, which
findings to show, which module or tool to look at.

* `Tab.Choice` — the things that can be chosen, `Choice.word` — the command that chooses each.
* `Tab.chosen` — what is chosen in a tab.
* `Daemon.retryWord` — the command that tries again after a failure, `Tab.resetAttempts` — what it
  does to the tab.
-/

namespace Dashboard

/-- Something that can be chosen in a tab. -/
inductive Tab.Choice where
  | historyLimit
  | query
  | severity
  | usageModule
  | toolModule
  | tool
  deriving DecidableEq, Repr

namespace Tab.Choice

/-- The command that makes the choice. -/
def word : Choice → String
  | historyLimit => Cron.Verb.setHistoryLimit.word
  | query => Slop.Verb.search.word
  | severity => Slop.Verb.filterSeverity.word
  | usageModule => Stats.Verb.selectModule.word
  | toolModule => Tools.Verb.selectModule.word
  | tool => Tools.Verb.selectTool.word

/-- What may be chosen: a number, or a text or none. -/
inductive Value where
  | number (n : Nat)
  | text (s : Option String)
  deriving DecidableEq, Repr

end Tab.Choice

/-- What is chosen in a tab; nothing if the tab does not offer the choice. -/
def Tab.chosen : Tab → Choice → Option Choice.Value
  | cron s, .historyLimit => some (.number s.historyLimit)
  | slop s, .query => some (.text s.filter.query)
  | slop s, .severity => some (.text s.filter.severity)
  | stats s, .usageModule => some (.text s.selected)
  | tools s, .toolModule => some (.text s.selection.module)
  | tools s, .tool => some (.text s.selection.tool)
  | _, _ => none

/-- The command by which the tab on a daemon tries again after a failure. -/
def Daemon.retryWord : Daemon → String
  | .cron => Cron.Verb.retry.word
  | .stats => Stats.Verb.retry.word
  | .slop => Slop.Verb.retry.word
  | .tools => Tools.Verb.retry.word
  | .context => Context.Verb.retry.word

/-- The tab with its next failure counted as the first. -/
def Tab.resetAttempts : Tab → Tab
  | cron s => cron { s with load := s.load.resetAttempts }
  | stats s => stats { s with load := s.load.resetAttempts }
  | slop s => slop { s with load := s.load.resetAttempts }
  | tools s => tools { s with load := s.load.resetAttempts }
  | context s => context { s with load := s.load.resetAttempts }

namespace Tab

@[simp] theorem attempts_resetAttempts (t : Tab) :
    t.resetAttempts.status.attempts = t.status.attempts.reset := by
  cases t <;> rfl

@[simp] theorem chosen_resetAttempts (t : Tab) (f : Choice) :
    t.resetAttempts.chosen f = t.chosen f := by
  cases t <;> cases f <;> rfl

end Tab

end Dashboard
