import Dashboard.Tab
/-!
# Switches

Some commands switch something at a daemon. They may say which state it is to have; if they do not,
it is to have the opposite of the state that the daemon reported.

* `Daemon.switchWords` — the commands of a tab that switch something.
* `Tab.Switch` — what can be switched, `Tab.switch?` — what a command is to switch.
* `Switch.mutation` — asks the daemon for a state, `Switch.reported?` — the state that a load told.
* `Switch.wanted?` — the mutation that a command is to lead to.
* `Switch.taken?` — what a tab takes for the state, `Report.tellsFiguresOnly` — where it was not
  reported.
-/

namespace Dashboard

/-- The commands by which the tab on a daemon switches something. -/
def Daemon.switchWords : Daemon → List String
  | .cron => [Cron.Verb.toggleScheduler.word, Cron.Verb.toggleJob.word]
  | .stats => []
  | .slop => [Slop.Verb.toggleLoop.word]
  | .tools => [Tools.Verb.toggleTool.word]
  | .context => [Context.Verb.pin.word]

namespace Tab

/-- Something that can be switched at a daemon. -/
inductive Switch where
  | scheduler
  | job (name : String)
  | loop
  | tool (module name : String)
  | item (id : String)
  deriving DecidableEq, Repr

namespace Switch

/-- The argument in which a command says which state is to be. -/
def argument : Switch → String
  | item _ => "pinned"
  | _ => "enabled"

/-- Asks the daemon for a state. -/
def mutation (on : Bool) : Switch → Mutation
  | scheduler => ⟨.cron, "setSchedulerEnabled", some (.object [("enabled", .bool on)])⟩
  | job name =>
    ⟨.cron, "setJobEnabled", some (.object [("enabled", .bool on), ("name", .string name)])⟩
  | loop => ⟨.slop, "setLoopEnabled", some (.object [("enabled", .bool on)])⟩
  | tool module name =>
    ⟨.tools, "setToolEnabled",
      some (.object [("enabled", .bool on), ("module", .string module), ("tool", .string name)])⟩
  | item id => ⟨.context, "setPinned", some (.object [("id", .string id), ("pinned", .bool on)])⟩

/-- The state that the one call of a load told that is about it. There is none if the call failed,
    which for the loop it also did if it brought null, or if it does not list the thing. A state
    that an answer leaves out is read as for any other purpose: the scheduler, a job and a tool are
    on, the loop does not run, and an item is not pinned. -/
def reported? (r : Report) : Switch → Option Bool
  | scheduler => (r.data? Cron.jobsMethod).map (·.truthOr Cron.Snapshot.schedulerFields true)
  | job name =>
    (r.data? Cron.jobsMethod).bind fun x =>
      ((Cron.Snapshot.jobsOf x).find? (·.name == name)).map (·.enabled)
  | loop =>
    (r.contribution? Slop.statusMethod).map (·.truthOr Slop.LoopStatus.runningFields false)
  | tool module name =>
    (r.data? Tools.modulesMethod).bind fun x =>
      (((Tools.Snapshot.modulesOf x).find? (·.name == module)).bind (·.tool? name)).map (·.enabled)
  | item id =>
    (r.data? Context.contextMethod).bind fun x =>
      ((Context.Snapshot.itemsOf x).find? (·.id == id)).map (·.pinned)

/-- The mutation that a command is to lead to: it asks for the state that the command names, or else
    for the opposite of the reported one. -/
def wanted? (x : Switch) (c : Command) (reported : Option Bool) : Option Mutation :=
  match c.truth? x.argument with
  | some on => some (x.mutation on)
  | none => reported.map fun on => x.mutation !on

end Switch

/-- What a command is to switch, if it says so. A tool without a module is one of the module
    shown. -/
def switch? : Tab → Command → Option Switch
  | cron _, c =>
    if c.name = Cron.Verb.toggleScheduler.word then some .scheduler
    else (c.word? "name").map .job
  | stats _, _ => none
  | slop _, _ => some .loop
  | tools s, c =>
    let shown := (s.load.snapshot.bind (·.active? s.selection.module)).map (·.name)
    (c.word? "tool").bind fun name =>
      ((c.word? "module").or shown).map fun module => .tool module name
  | context _, c => (c.word? "id").map .item

/-- A reaction that asks for the given mutation, or that does not handle the command where there is
    none. -/
def Reaction.Is (r : Reaction) : Option Mutation → Prop
  | some m => r = .change m
  | none => r.isHandled = false

/-- Whether a load told figures over the findings and nothing of the loop. -/
def Report.tellsFiguresOnly (r : Report) : Bool :=
  (r.contribution? Slop.statusMethod).isNone && (r.contribution? Slop.statisticsMethod).isSome

/-- What a tab takes for the state of a switch where its snapshot was made of a report. A loop of
    which only figures were told counts as one that does not run. -/
def Switch.taken? (source : Option Report) (x : Switch) : Option Bool :=
  if x = .loop ∧ source.any Report.tellsFiguresOnly = true then some false
  else source.bind x.reported?

end Tab

end Dashboard
