import Dashboard.Tab
import Dashboard.World.Basic
/-!
# Driving one tab

What a single tab asks for is carried out at once, one call after the other.

* `Tab.fetch` — makes the calls of a load.
* `Tab.load` — loads the tab.
* `Tab.handle` — hands a command to the tab and does what it asks for. A mutation is followed by a
  load, whether it succeeded or not, so the tab only ever shows what the daemon says.
-/

namespace Dashboard.Tab

variable {m : Type → Type} [Monad m] [World m]

/-- Makes the calls of a load. -/
def fetch (d : Daemon) (queries : List Query) : m Report := do
  let outcomes ← queries.mapM fun q => do
    return ⟨q.method, ← World.call d q.method q.params⟩
  return ⟨outcomes⟩

/-- Makes the call of a mutation. -/
def Mutation.perform (change : Mutation) : m Reply := do
  let reply ← World.call change.daemon change.method change.params
  World.noteAll (change.notices reply)
  return reply

/-- What driving a tab came to. -/
structure Driven where
  tab : Tab
  /-- Whether the command was handled, or the report applied. -/
  done : Bool
  /-- How often the tab asked to be drawn again. -/
  signals : Nat

/-- Loads the tab. -/
def load (t : Tab) : m Driven := do
  let (ticket, t) := t.begin
  let report ← fetch t.daemon t.queries
  let (applied, t) := t.complete ticket report
  if applied then World.noteAll (t.loadNotices report)
  return ⟨t, applied, if applied then 1 else 0⟩

/-- Hands a command to the tab and does what it asks for. -/
def handle (t : Tab) (c : Command) : m Driven := do
  let (t, reaction) := t.react c
  World.noteAll reaction.notices
  match reaction with
  | .ignored _ => return ⟨t, false, 0⟩
  | .redraw => return ⟨t, true, 1⟩
  | .reload => return { ← t.load with done := true }
  | .change change =>
    let _ ← change.perform
    return { ← t.load with done := true }

end Dashboard.Tab
