import Dashboard.Context.State
import Dashboard.Cron.State
import Dashboard.Slop.State
import Dashboard.Stats.State
import Dashboard.Tools.State
/-!
# Tabs

* `Tab` — a tab on one of the daemons.
* `Tab.begin`, `Tab.complete` — a load begins and ends.
* `Tab.react` — what a command does to the tab, and what it asks for.
* `Tab.content`, `Tab.script`, `Tab.styles`, `Tab.badge` — how the tab is shown.
-/

namespace Dashboard

/-- A tab. -/
inductive Tab where
  | cron (s : Cron.State)
  | stats (s : Stats.State)
  | slop (s : Slop.State)
  | tools (s : Tools.State)
  | context (s : Context.State)

namespace Tab

/-- The tab on a daemon, never loaded. -/
def new (d : Daemon) (cap historyLimit : Nat) : Tab :=
  match d with
  | .cron => cron (.new cap historyLimit)
  | .stats => stats (.new cap)
  | .slop => slop (.new cap)
  | .tools => tools (.new cap)
  | .context => context (.new cap)

/-- The daemon that the tab asks. -/
def daemon : Tab → Daemon
  | cron _ => .cron
  | stats _ => .stats
  | slop _ => .slop
  | tools _ => .tools
  | context _ => .context

/-- The description of the tab on a daemon. -/
def Identity.ofDaemon : Daemon → Identity
  | .cron => Cron.identity
  | .stats => Stats.identity
  | .slop => Slop.identity
  | .tools => Tools.identity
  | .context => Context.identity

def identity (t : Tab) : Identity := .ofDaemon t.daemon

def id (t : Tab) : String := t.identity.id

/-- What became of the loads of a tab, whatever it loads. -/
structure Status where
  phase : Phase
  lastError : Option String
  attempts : Attempts
  issued : Nat
  deriving DecidableEq, Repr

def LoadState.status {σ : Type} (s : LoadState σ) : Status :=
  ⟨s.phase, s.lastError, s.attempts, s.issued⟩

def status : Tab → Status
  | cron s => s.load.status
  | stats s => s.load.status
  | slop s => s.load.status
  | tools s => s.load.status
  | context s => s.load.status

/-! ### Loads -/

/-- The calls of a load. -/
def queries : Tab → List Query
  | cron s => s.queries
  | stats _ => Stats.State.queries
  | slop _ => Slop.State.queries
  | tools _ => Tools.State.queries
  | context _ => Context.State.queries

/-- A load begins; the number is its ticket. -/
def begin : Tab → Nat × Tab
  | cron s => (s.load.begin.1, cron { s with load := s.load.begin.2 })
  | stats s => (s.load.begin.1, stats { s with load := s.load.begin.2 })
  | slop s => (s.load.begin.1, slop { s with load := s.load.begin.2 })
  | tools s => (s.load.begin.1, tools { s with load := s.load.begin.2 })
  | context s => (s.load.begin.1, context { s with load := s.load.begin.2 })

/-- A load ends; the answer says whether its report was applied. -/
def complete (t : Tab) (ticket : Nat) (report : Report) : Bool × Tab :=
  match t with
  | cron s =>
    let (applied, load) := s.load.complete ticket report Cron.Snapshot.ofReport
    (applied, cron { s with load })
  | stats s =>
    let (applied, load) := s.load.complete ticket report Stats.Snapshot.ofReport
    (applied, stats { s with load })
  | slop s =>
    let (applied, load) := s.load.complete ticket report Slop.Snapshot.ofReport
    (applied, slop { s with load })
  | tools s =>
    let (applied, load) := s.load.complete ticket report Tools.Snapshot.ofReport
    (applied, tools { s with load })
  | context s =>
    let (applied, load) := s.load.complete ticket report Context.Snapshot.ofReport
    (applied, context { s with load })

/-- What is to be noted of a load whose report was applied, given the tab after it. -/
def loadNotices (t : Tab) (report : Report) : List Notice :=
  t.status.attempts.notices t.id report

/-- What is to be noted of a mutation. -/
def Mutation.notices (m : Mutation) (reply : Reply) : List Notice :=
  if reply.success then []
  else [.warning ("Mutation " ++ m.description ++ " failed: " ++ reply.reason)]

/-! ### Commands -/

/-- What a command does to the tab, and what it asks for. -/
def react (t : Tab) (c : Command) : Tab × Reaction :=
  match t with
  | cron s => let (s, r) := s.react c; (cron s, r)
  | stats s => let (s, r) := s.react c; (stats s, r)
  | slop s => let (s, r) := s.react c; (slop s, r)
  | tools s => let (s, r) := s.react c; (tools s, r)
  | context s => let (s, r) := s.react c; (context s, r)

/-! ### Views -/

def badge : Tab → Option Badge
  | cron s => s.badge
  | stats s => s.badge
  | slop s => s.badge
  | tools s => s.badge
  | context s => s.badge

/-- The view of the tab. -/
def content (t : Tab) (now : Time.Instant) : Markup.Node Empty :=
  match t with
  | cron s => s.content now
  | stats s => s.content now
  | slop s => s.content now
  | tools s => s.content now
  | context s => s.content now

/-- What the elements of the tab do. -/
def bindings : Tab → List Wiring.Binding
  | cron _ => Cron.bindings
  | stats _ => Stats.bindings
  | slop _ => Slop.bindings
  | tools _ => Tools.bindings
  | context _ => Context.bindings

/-- The script of the tab. -/
def script (t : Tab) : String := Wiring.script t.id t.bindings

/-- The style sheet of the tab. -/
def styles : Tab → String
  | cron _ => Cron.styles
  | stats _ => Stats.styles
  | slop _ => Slop.styles
  | tools _ => ""
  | context _ => Context.styles

end Tab

end Dashboard
