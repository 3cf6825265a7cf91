import Dashboard.Notice
import Dashboard.Reply
import Dashboard.Settings.Basic
/-!
# The bus to the daemons

* `Bus` — where the daemons are called and how long a call may take.
* `Bus.unreachable` — the failure of a call to a daemon that cannot be reached.
* `Bus.notice` — how a failed call is noted.
-/

namespace Dashboard

/-- Where the daemons are called and how long a call may take. -/
structure Bus where
  addresses : List (Daemon × String)
  /-- How long a call may take, in milliseconds. -/
  callTimeout : Nat := Settings.defaultCallTimeout

namespace Bus

/-- The bus that the settings ask for. -/
def ofSettings (s : Settings) : Bus := ⟨s.enabled, s.callTimeout⟩

/-- The address of a daemon. -/
def address? (b : Bus) (d : Daemon) : Option String := (b.addresses.find? (·.1 == d)).map (·.2)

/-- The daemons that have an address. -/
def daemons (b : Bus) : List Daemon := b.addresses.map (·.1)

/-- The failure of a call to a daemon that cannot be reached. -/
def unreachable (address reason : String) : Fault :=
  .transport ("failed to connect to " ++ address ++ ": " ++ reason)

/-- How a failed call is noted. -/
def notice (d : Daemon) (method : String) (f : Fault) : Notice :=
  let text := d.name ++ "." ++ method ++ " failed: " ++ f.message
  if f.isRecoverable then .warning text else .error text

end Bus

end Dashboard
