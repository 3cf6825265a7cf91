import Dashboard.Bus
import Dashboard.World.Basic
/-!
# The machine on which the dashboard runs

* `Machine` — files, a network, a clock, and a place for notices.
* A machine and a bus together are a world: a call tries to connect to the daemon.
-/

namespace Dashboard

/-- What the dashboard needs of a machine. -/
class Machine (m : Type → Type) where
  /-- Whether a path leads to anything. -/
  isThere : String → m Bool
  /-- The text of a file. -/
  readText : String → m (Except Fault String)
  writeText : String → String → m (Except Fault Unit)
  /-- Makes the directories of a path that are missing. -/
  makeDirectories : String → m (Except Fault Unit)
  /-- Tries to connect to an address; the answer is why that failed. -/
  connect : String → m String
  now : m Time.Instant
  note : Notice → m Unit

namespace Machine

variable {m : Type → Type} [Monad m] [Machine m]

/-- Daemons on the network of a machine. -/
instance : World (ReaderT Bus m) where
  call d method _ := do
    let bus ← read
    let fault ←
      match bus.address? d with
      | none => pure (Fault.notConfigured d.name)
      | some address => do
        let reason ← liftM (connect address : m String)
        pure (Bus.unreachable address reason)
    liftM (note (Bus.notice d method fault) : m Unit)
    return Reply.ofResult (.error fault)
  now := liftM (now : m Time.Instant)
  note notice := liftM (note notice : m Unit)

end Machine

end Dashboard
