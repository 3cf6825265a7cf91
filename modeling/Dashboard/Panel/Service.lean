import Dashboard.Panel.Drive
/-!
# What the panel is asked for, one thing after the other

* `Panel.Demand` — to load all tabs, or to handle a command.
* `Panel.serve`, `Panel.serveAll` — meets demands; each one is met before the next.
-/

namespace Dashboard.Panel

variable {m : Type → Type} [Monad m] [World m]

/-- What the panel may be asked for. -/
inductive Demand where
  | loadAll
  | command (c : Command)

/-- Meets a demand. -/
def serve (p : Panel) : Demand → m Panel
  | .loadAll => p.loadAll
  | .command c => (·.2) <$> p.handle c

/-- Meets demands in order. -/
def serveAll (p : Panel) : List Demand → m Panel
  | [] => return p
  | demand :: rest => do
    let p ← p.serve demand
    p.serveAll rest

end Dashboard.Panel
