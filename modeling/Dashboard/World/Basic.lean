import Dashboard.Daemon
import Dashboard.Notice
import Dashboard.Reply
import Dashboard.Time.Instant
/-!
# The world of the dashboard

The dashboard runs among daemons that answer calls, there is a clock, and somebody takes its
notices. What it does is written for any such world: for the real one, and for one that follows a
script.
-/

namespace Dashboard

/-- Daemons that answer calls, a clock, and a place for notices. -/
class World (m : Type → Type) where
  /-- Calls a method of a daemon. However the call fails, there is a reply. -/
  call : Daemon → String → Option Json → m Reply
  now : m Time.Instant
  note : Notice → m Unit

namespace World

variable {m : Type → Type} [Monad m] [World m]

/-- Notes several things. -/
def noteAll (notices : List Notice) : m Unit := notices.forM note

/-- The same world for a computation with a state of its own. -/
instance {σ : Type} : World (StateT σ m) where
  call daemon method params := liftM (World.call daemon method params : m Reply)
  now := liftM (World.now : m Time.Instant)
  note notice := liftM (World.note notice : m Unit)

end World

end Dashboard
