import Dashboard.Daemon
/-!
# Settings

* `Settings` — the addresses of the daemons, how calls are made, and which tabs there are.
* `Settings.default` — the settings where nothing else is said.
* `Settings.enabled` — the daemons that have an address; one without is switched off.
-/

namespace Dashboard

/-- The address of each daemon; a blank one switches the daemon off. -/
structure Endpoints where
  cron : String
  stats : String
  slop : String
  tools : String
  context : String
  deriving DecidableEq, Repr

namespace Endpoints

def get (e : Endpoints) : Daemon → String
  | .cron => e.cron
  | .stats => e.stats
  | .slop => e.slop
  | .tools => e.tools
  | .context => e.context

def set (e : Endpoints) (d : Daemon) (address : String) : Endpoints :=
  match d with
  | .cron => { e with cron := address }
  | .stats => { e with stats := address }
  | .slop => { e with slop := address }
  | .tools => { e with tools := address }
  | .context => { e with context := address }

/-- The port on which a daemon is expected. -/
def defaultPort : Daemon → Nat
  | .cron => 7401
  | .stats => 7402
  | .slop => 7403
  | .tools => 7404
  | .context => 7405

/-- The address at which a daemon is expected. -/
def defaultFor (d : Daemon) : String := "ws://127.0.0.1:" ++ toString (defaultPort d)

/-- The endpoints that a function gives. -/
def ofFunction (f : Daemon → String) : Endpoints :=
  ⟨f .cron, f .stats, f .slop, f .tools, f .context⟩

def default : Endpoints := ofFunction defaultFor

@[simp] theorem get_ofFunction (f : Daemon → String) (d : Daemon) : (ofFunction f).get d = f d := by
  cases d <;> rfl

end Endpoints

/-- The settings. -/
structure Settings where
  endpoints : Endpoints
  /-- How long a call may take, in milliseconds. -/
  callTimeout : Nat
  /-- The cap of the count of failed loads. -/
  maxRetries : Nat
  /-- The tabs in the order in which they are shown. -/
  order : List Daemon
  /-- How many past runs of jobs are asked for at first. -/
  historyLimit : Nat
  deriving DecidableEq, Repr

namespace Settings

def defaultCallTimeout : Nat := 10000

def defaultMaxRetries : Nat := 3

def defaultHistoryLimit : Nat := 20

/-- The settings where nothing else is said. -/
def default : Settings where
  endpoints := Endpoints.default
  callTimeout := defaultCallTimeout
  maxRetries := defaultMaxRetries
  order := Daemon.all
  historyLimit := defaultHistoryLimit

/-- Whether a daemon has an address. -/
def isEnabled (s : Settings) (d : Daemon) : Bool := !Text.isBlankText (s.endpoints.get d)

/-- The daemons that have an address, with it. -/
def enabled (s : Settings) : List (Daemon × String) :=
  (Daemon.all.filter s.isEnabled).map fun d => (d, s.endpoints.get d)

/-- The daemons that get a tab. -/
def shown (s : Settings) : List Daemon := s.order.filter s.isEnabled

end Settings

end Dashboard
