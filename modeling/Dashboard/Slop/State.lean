import Dashboard.Slop.View
import Dashboard.Tab.Content
import Dashboard.Tab.Reaction
/-!
# The findings tab

* `Slop.State` — what the tab has loaded and which findings are shown.
* `Slop.State.react` — what a command does. Only searching and choosing a severity change the filter,
  and only trying again resets the count of failures.
-/

namespace Dashboard.Slop

def identity : Tab.Identity := ⟨"slop", "Slop", "search"⟩

/-- The tab. -/
structure State where
  load : Tab.LoadState Snapshot
  filter : Filter := {}

namespace State

open Tab

def new (cap : Nat) : State := { load := .new cap }

/-- The calls of a load. -/
def queries : List Query :=
  [{ method := statusMethod }, { method := findingsMethod }, { method := statisticsMethod }]

def badge (s : State) : Option Badge :=
  s.load.badge fun x =>
    if x.isScanning then some ⟨"scanning", .running⟩
    else if 0 < x.findingCount then some ⟨toString x.findingCount, .warning⟩
    else none

def content (s : State) (now : Time.Instant) : Markup.Node Empty :=
  s.load.content
    { id := identity.id, retry := Verb.retry.word, what := "scan status"
      data := fun x => x.view s.filter now }

/-- Asks the daemon to switch the loop. -/
def toggleLoop (s : State) (c : Command) : Reaction :=
  match targetState? (c.truth? "enabled") ((s.load.snapshot.bind (·.status)).map (·.running)) with
  | some on => .change ⟨.slop, "setLoopEnabled", some (.object [("enabled", .bool on)])⟩
  | none => .lacking c.name .targetState

/-- Asks the daemon to forget a finding. -/
def dismiss (c : Command) : Reaction :=
  match c.word? "id" with
  | some id => .change ⟨.slop, "dismissFinding", some (.object [("id", .string id)])⟩
  | none => .lacking c.name .id

/-- What a command does. -/
def react (s : State) (c : Command) : State × Reaction :=
  match Verb.ofWord? c.name with
  | none => (s, .ignored none)
  | some .refresh => (s, .reload)
  | some .retry => ({ s with load := s.load.resetAttempts }, .reload)
  | some .scanNow => (s, .change ⟨.slop, "scanNow", none⟩)
  | some .toggleLoop => (s, s.toggleLoop c)
  | some .dismiss => (s, dismiss c)
  | some .search => ({ s with filter := s.filter.withQuery (c.word? "query") }, .redraw)
  | some .filterSeverity =>
    ({ s with filter := s.filter.withSeverity (c.word? "severity") }, .redraw)

end State

end Dashboard.Slop
