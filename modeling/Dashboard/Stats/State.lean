import Dashboard.Stats.View
import Dashboard.Tab.Content
import Dashboard.Tab.Reaction
/-!
# The usage tab
-/

namespace Dashboard.Stats

def identity : Tab.Identity := ⟨"stats", "Stats", "graph"⟩

/-- The tab. -/
structure State where
  load : Tab.LoadState Snapshot
  /-- The module whose details are shown. -/
  selected : Option String := none

namespace State

open Tab

def new (cap : Nat) : State := { load := .new cap }

/-- The calls of a load. -/
def queries : List Query := [{ method := summaryMethod }, { method := memoryMethod }]

/-- Nothing but an error is worth a badge. -/
def badge (s : State) : Option Badge := s.load.badge fun _ => none

def content (s : State) (now : Time.Instant) : Markup.Node Empty :=
  s.load.content
    { id := identity.id, retry := Verb.retry.word, what := "usage statistics"
      data := fun x => x.view s.selected now }

/-- Asks the daemon to clear a module, the selected one if none is named. -/
def clearModule (s : State) (c : Command) : Reaction :=
  match (c.word? "module").or s.selected with
  | some name => .change ⟨.stats, "clearModule", some (.object [("module", .string name)])⟩
  | none => .lacking c.name .module

/-- What a command does. -/
def react (s : State) (c : Command) : State × Reaction :=
  match Verb.ofWord? c.name with
  | none => (s, .ignored none)
  | some .refresh => (s, .reload)
  | some .retry => ({ s with load := s.load.resetAttempts }, .reload)
  | some .selectModule => ({ s with selected := c.word? "module" }, .redraw)
  | some .clearModule => (s, s.clearModule c)

end State

end Dashboard.Stats
