import Dashboard.Tab.Content
import Dashboard.Tab.Reaction
import Dashboard.Tools.View
/-!
# The tools tab
-/

namespace Dashboard.Tools

def identity : Tab.Identity := ⟨"tools", "Tools", "tools"⟩

/-- The tab. -/
structure State where
  load : Tab.LoadState Snapshot
  selection : Selection := {}

namespace State

open Tab

def new (cap : Nat) : State := { load := .new cap }

/-- The calls of a load. -/
def queries : List Query := [{ method := modulesMethod }, { method := configMethod }]

def badge (s : State) : Option Badge :=
  s.load.badge fun x => if 0 < x.enabledCount then some (.ofCount x.enabledCount) else none

def content (s : State) (_now : Time.Instant) : Markup.Node Empty :=
  s.load.content
    { id := identity.id, retry := Verb.retry.word, what := "tool modules"
      data := fun x => x.view s.selection }

/-- Asks the daemon to switch a tool, in the module shown if none is named. -/
def toggleTool (s : State) (c : Command) : Reaction :=
  match c.word? "tool" with
  | none => .lacking c.name .toolName
  | some tool =>
    let shown := (s.load.snapshot.bind (·.active? s.selection.module)).map (·.name)
    match (c.word? "module").or shown with
    | none => .lackingFor c.name tool .module
    | some module =>
      let present := ((s.load.snapshot.bind (·.module? module)).bind (·.tool? tool)).map (·.enabled)
      match targetState? (c.truth? "enabled") present with
      | none => .lackingFor c.name (module ++ "/" ++ tool) .targetState
      | some on =>
        .change
          ⟨.tools, "setToolEnabled",
            some (.object
              [("enabled", .bool on), ("module", .string module), ("tool", .string tool)])⟩

/-- What a command does. Another module has other tools, so choosing one gives up the choice of a
    tool. -/
def react (s : State) (c : Command) : State × Reaction :=
  match Verb.ofWord? c.name with
  | none => (s, .ignored none)
  | some .refresh => (s, .reload)
  | some .retry => ({ s with load := s.load.resetAttempts }, .reload)
  | some .selectModule => ({ s with selection := { module := c.word? "module" } }, .redraw)
  | some .selectTool =>
    ({ s with selection := { s.selection with tool := c.word? "tool" } }, .redraw)
  | some .toggleTool => (s, s.toggleTool c)

end State

end Dashboard.Tools
