import Dashboard.Markup.Token
import Dashboard.Panel.Course
import Dashboard.Tab.Choice
/-!
# What the view of a failure has to tell

* `Markup.attemptNotes?` — what a text says of attempts, if it is the view of a failure.
* `Tab.showsFailure` — whether this is what a tab shows.
* `Daemon.IsRetry`, `Session.Retried` — the user has tried again since a report was applied.
* `ReadsAttempt` — the view of a failure tells the number of an attempt.
-/

namespace Dashboard

open Panel Session

namespace Markup

end Markup

/-- A command by which the user tries again to load the tab on a daemon. It names the tab or none. -/
structure Daemon.IsRetry (d : Daemon) (c : Command) : Prop where
  name : c.name = d.retryWord
  tab : c.tab = none ∨ c.tab = some (Tab.Identity.ofDaemon d).id

/-- Whether a report was applied for the tab at a place. -/
def Session.Event.appliesAt (i : Nat) (e : Event) : Bool := e.concerns i && e.appliesLoad

/-- The user has tried again to load the tab at a place, which is on a daemon, and no report was
    applied since. -/
def Session.Retried (i : Nat) (d : Daemon) (log : List Event) : Prop :=
  ∃ before c after, log = before ++ .received c :: after ∧ d.IsRetry c ∧
    ∀ e ∈ after, e.appliesAt i = false

end Dashboard
