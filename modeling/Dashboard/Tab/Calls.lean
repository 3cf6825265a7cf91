import Dashboard.Tab
/-!
# The calls of a load

A load makes several calls, and any of them may fail while others succeed. What is kept of the load
has parts, each of which is made of what one call brought.

* `Daemon.methods` — the methods that a load of the tab on a daemon calls.
* `Report.outcomesOf` — what became of the calls of a method.
* `Report.Covers` — a report that tells it once for each of some methods.
* `Report.AgreesOn` — two reports that tell the same of a method.
* `Tab.Feeds` — a part of what is kept hangs on one method alone.
* `Outcome.contributes` — a call that brought something.
-/

namespace Dashboard

/-- The methods that a load of the tab on a daemon calls. -/
def Daemon.methods : Daemon → List String
  | .cron => [Cron.jobsMethod, Cron.historyMethod]
  | .stats => [Stats.summaryMethod, Stats.memoryMethod]
  | .slop => [Slop.statusMethod, Slop.findingsMethod, Slop.statisticsMethod]
  | .tools => [Tools.modulesMethod, Tools.configMethod]
  | .context => [Context.contextMethod]

theorem Daemon.nodup_methods (d : Daemon) : d.methods.Nodup := by
  cases d <;> decide

/-- The state of the loop without the figures; if it is not known, the one that stands for that. -/
def Slop.Snapshot.loop (x : Snapshot) : LoopStatus := { x.status.getD {} with statistics := none }

/-- The figures over all findings, if they are known. -/
def Slop.Snapshot.figures? (x : Snapshot) : Option Statistics := x.status.bind (·.statistics)

namespace Tab

/-- Whether a call succeeded and brought something other than null. -/
def Outcome.contributes (o : Outcome) : Bool :=
  o.reply.success && o.reply.data.any fun x => !x.isNull

namespace Report

/-- The outcomes of the calls of a method. -/
def outcomesOf (r : Report) (method : String) : List Outcome :=
  r.outcomes.filter (·.method == method)

/-- The report has one outcome for each of the methods. -/
def Covers (r : Report) (methods : List String) : Prop :=
  ∀ method ∈ methods, ∃ o, r.outcomesOf method = [o]

/-- The calls of a method came out alike in two reports. -/
def AgreesOn (r r' : Report) (method : String) : Prop :=
  r.outcomesOf method = r'.outcomesOf method

end Report

/-- A part of what is kept of a load hangs on what became of the calls of one method, whatever
    became of the others. -/
def Feeds {σ α : Type} (ofReport : Report → σ) (method : String) (part : σ → α) : Prop :=
  ∀ r r' : Report, r.AgreesOn r' method → part (ofReport r) = part (ofReport r')

end Tab

end Dashboard
