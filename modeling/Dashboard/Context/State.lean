import Dashboard.Context.View
import Dashboard.Tab.Content
import Dashboard.Tab.Reaction
import Dashboard.Time.Instant
/-!
# The context tab
-/

namespace Dashboard.Context

def identity : Tab.Identity := ⟨"context", "Context", "layers"⟩

/-- The tab. -/
structure State where
  load : Tab.LoadState Snapshot

namespace State

open Tab

def new (cap : Nat) : State := { load := .new cap }

/-- The calls of a load. -/
def queries : List Query := [{ method := contextMethod }]

/-- The badge warns when use is critical. -/
def badge (s : State) : Option Badge :=
  s.load.badge fun x =>
    (x.usagePercent?.filter (criticalPercent ≤ ·)).map fun p => ⟨toString p ++ "%", .warning⟩

def content (s : State) (_now : Time.Instant) : Markup.Node Empty :=
  s.load.content
    { id := identity.id, retry := Verb.retry.word, what := "context"
      data := fun x => x.view }

/-- Asks the daemon to pin a part or to let it go. -/
def pin (s : State) (c : Command) : Reaction :=
  match c.word? "id" with
  | none => .lacking c.name .id
  | some id =>
    let present := (s.load.snapshot.bind (·.item? id)).map (·.pinned)
    match targetState? (c.truth? "pinned") present with
    | some on =>
      .change ⟨.context, "setPinned", some (.object [("id", .string id), ("pinned", .bool on)])⟩
    | none => .lackingFor c.name ("for unknown item " ++ id) .targetState

/-- What a command does. -/
def react (s : State) (c : Command) : State × Reaction :=
  match Verb.ofWord? c.name with
  | none => (s, .ignored none)
  | some .refresh => (s, .reload)
  | some .retry => ({ s with load := s.load.resetAttempts }, .reload)
  | some .clear => (s, .change ⟨.context, "clearContext", none⟩)
  | some .pin => (s, s.pin c)

end State

end Dashboard.Context
