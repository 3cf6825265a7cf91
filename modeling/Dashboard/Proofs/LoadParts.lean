import Dashboard.Proofs.SessionEnd
import Dashboard.Tab.Calls
/-!
# Failures of single calls stay local

What is kept of a load is read method by method, and what one call brought goes to parts of its own.
A call that fails, or that brings something odd, leaves the other parts as they are.

* `Report.data?_eq`, `Report.AgreesOn.data?` — what a method brought is told by the outcomes of its
  own calls.
* `Report.covers_of_map_method` — what is asked for once is told once,
  `Report.Covers.agreesOn_of_perm` — so that the order of the outcomes does not matter.
* `Feeds.of_data?`, `Feeds.of_contribution?` — a part that is made of what one method brought.
* `Slop.Snapshot.loop_ofReport`, `Slop.Snapshot.figures?_ofReport` — what two calls brought is put
  together so that it can be told apart again.
* `calls_feed_their_own_parts` — which call feeds which part of which tab.
-/

namespace Dashboard

/-! ### Outcomes of one method -/

namespace Tab.Report

variable {r r' : Report} {method : String} {methods : List String} {o : Outcome}

/-- What a method brought is told by the outcomes of its own calls. -/
theorem data?_eq (r : Report) (method : String) :
    r.data? method =
      ((r.outcomesOf method).find? (·.reply.success)).map fun o => o.reply.data.getD .null := by
  rw [data?, outcomesOf, List.find?_filter]
  congr 2
  funext o
  simp only [Outcome.answers, Bool.decide_and, Bool.decide_eq_true]

/-- Calls that came out alike brought the same. -/
theorem AgreesOn.data? (h : r.AgreesOn r' method) : r.data? method = r'.data? method := by
  rw [data?_eq, data?_eq, show r.outcomesOf method = r'.outcomesOf method from h]

theorem AgreesOn.contribution? (h : r.AgreesOn r' method) :
    r.contribution? method = r'.contribution? method := by
  rw [Report.contribution?, h.data?, Report.contribution?]

/-- A method with one outcome contributed something if that outcome did. -/
theorem isSome_contribution? (h : r.outcomesOf method = [o]) :
    (r.contribution? method).isSome = o.contributes := by
  rw [Report.contribution?, data?_eq, h, Outcome.contributes]
  cases hs : o.reply.success with
  | false => simp [hs]
  | true =>
    cases hd : o.reply.data with
    | none => simp [hs, hd, Json.isNull]
    | some x => cases hn : x.isNull <;> simp [hs, hd, hn]

theorem mem_outcomesOf : o ∈ r.outcomesOf method ↔ o ∈ r.outcomes ∧ o.method = method := by
  simp [outcomesOf]

/-- What is asked for once is told once. -/
theorem covers_of_map_method (h : r.outcomes.map (·.method) = methods) (hn : methods.Nodup) :
    r.Covers methods := by
  subst h
  intro method hm
  have hcount : (r.outcomesOf method).length = 1 := calc
    (r.outcomesOf method).length = (r.outcomes.map (·.method)).count method := by
      rw [outcomesOf, ← List.countP_eq_length_filter, List.count, List.countP_map]
      rfl
    _ = 1 := List.count_eq_one_of_mem hn hm
  exact List.length_eq_one_iff.mp hcount

/-- With one outcome for each method, their order does not matter. -/
theorem Covers.agreesOn_of_perm (h : r.Covers methods) (hp : r.outcomes.Perm r'.outcomes)
    (hm : method ∈ methods) : r.AgreesOn r' method := by
  obtain ⟨o, ho⟩ := h method hm
  have hfilter : (r.outcomesOf method).Perm (r'.outcomesOf method) := hp.filter _
  rw [ho] at hfilter
  rw [AgreesOn, ho, List.singleton_perm.mp hfilter]

end Tab.Report

/-! ### Parts -/

namespace Tab

variable {σ α : Type} {ofReport : Report → σ} {method : String} {part : σ → α}

/-- A part that is made of what a method brought. -/
theorem Feeds.of_data? (make : Option Json → α)
    (h : ∀ r, part (ofReport r) = make (r.data? method)) : Feeds ofReport method part := by
  intro r r' hr
  rw [h, h, hr.data?]

/-- A part that is made of what a method brought, null apart. -/
theorem Feeds.of_contribution? (make : Option Json → α)
    (h : ∀ r, part (ofReport r) = make (r.contribution? method)) : Feeds ofReport method part := by
  intro r r' hr
  rw [h, h, hr.contribution?]

end Tab

namespace Slop.Snapshot

open Tab

/-- The status of the loop comes from its own call, and stands as it is by default if that brought
    nothing. -/
theorem loop_ofReport (r : Report) :
    (ofReport r).loop = ((r.contribution? statusMethod).map LoopStatus.ofJson).getD {} := by
  simp only [loop, ofReport, LoopStatus.merge]
  cases r.contribution? statusMethod <;> cases r.contribution? statisticsMethod <;> rfl

/-- The figures come from their own call. -/
theorem figures?_ofReport (r : Report) :
    (ofReport r).figures? = (r.contribution? statisticsMethod).map Statistics.ofJson := by
  simp only [figures?, ofReport, LoopStatus.merge]
  cases r.contribution? statusMethod <;> cases r.contribution? statisticsMethod <;> rfl

/-- There is a status if one of its two calls brought something. -/
theorem isSome_status_ofReport (r : Report) :
    (ofReport r).status.isSome =
      ((r.contribution? statusMethod).isSome || (r.contribution? statisticsMethod).isSome) := by
  simp only [ofReport, LoopStatus.merge]
  cases r.contribution? statusMethod <;> cases r.contribution? statisticsMethod <;> rfl

/-- There are data to show if one of the calls brought some. -/
theorem hasAnyData_iff {r : Report} (h : r.Covers Daemon.slop.methods) :
    (ofReport r).hasAnyData = true ↔
      ∃ o ∈ r.outcomes, o.method ∈ Daemon.slop.methods ∧ o.contributes = true := by
  -- There are data if one of the methods contributes.
  have hany : (ofReport r).hasAnyData =
      Daemon.slop.methods.any fun method => (r.contribution? method).isSome := by
    rw [hasAnyData, isSome_status_ofReport]
    simp [ofReport, Daemon.methods, Bool.or_assoc, Bool.or_comm]
  rw [hany, List.any_eq_true]
  constructor
  · rintro ⟨method, hm, hsome⟩
    obtain ⟨o, ho⟩ := h method hm
    obtain ⟨hmem, rfl⟩ := Report.mem_outcomesOf.mp (ho ▸ List.mem_singleton_self o)
    exact ⟨o, hmem, hm, Report.isSome_contribution? ho ▸ hsome⟩
  · -- The call has one outcome, so it is the one that contributes.
    rintro ⟨o, hmem, hm, hcontributes⟩
    obtain ⟨o', ho⟩ := h o.method hm
    have hsame : o ∈ [o'] := ho ▸ Report.mem_outcomesOf.mpr ⟨hmem, rfl⟩
    obtain rfl := List.mem_singleton.mp hsame
    exact ⟨o.method, hm, (Report.isSome_contribution? ho).trans hcontributes⟩

end Slop.Snapshot

/-! ### All tabs -/

section Congruence

variable {r r' : Tab.Report}

/-- The snapshot of scheduled jobs depends on the calls of its daemon alone. -/
theorem Cron.Snapshot.ofReport_congr (h : ∀ m ∈ Daemon.cron.methods, r.AgreesOn r' m) :
    ofReport r = ofReport r' := by
  simp only [Daemon.methods, List.forall_mem_cons] at h
  obtain ⟨hjobs, hhistory, -⟩ := h
  rw [ofReport, hjobs.data?, hhistory.data?, ofReport]

/-- The snapshot of usage depends on the calls of its daemon alone. -/
theorem Stats.Snapshot.ofReport_congr (h : ∀ m ∈ Daemon.stats.methods, r.AgreesOn r' m) :
    ofReport r = ofReport r' := by
  simp only [Daemon.methods, List.forall_mem_cons] at h
  obtain ⟨hsummary, hmemory, -⟩ := h
  rw [ofReport, hsummary.data?, hmemory.data?, ofReport]

/-- The snapshot of findings depends on the calls of its daemon alone. -/
theorem Slop.Snapshot.ofReport_congr (h : ∀ m ∈ Daemon.slop.methods, r.AgreesOn r' m) :
    ofReport r = ofReport r' := by
  simp only [Daemon.methods, List.forall_mem_cons] at h
  obtain ⟨hstatus, hfindings, hstatistics, -⟩ := h
  rw [ofReport, hstatus.contribution?, hfindings.contribution?, hstatistics.contribution?, ofReport]

/-- The snapshot of tools depends on the calls of its daemon alone. -/
theorem Tools.Snapshot.ofReport_congr (h : ∀ m ∈ Daemon.tools.methods, r.AgreesOn r' m) :
    ofReport r = ofReport r' := by
  simp only [Daemon.methods, List.forall_mem_cons] at h
  obtain ⟨hmodules, hconfig, -⟩ := h
  rw [ofReport, hmodules.data?, hconfig.data?, ofReport]

end Congruence

/-- Each part of what is kept of a load is made of what one call brought, whatever became of the
    other calls. Where each call has one outcome the order of the outcomes does not matter, and the
    findings tab has data to show exactly if some call brought something other than null. -/
theorem calls_feed_their_own_parts :
    (Tab.Feeds Cron.Snapshot.ofReport Cron.jobsMethod (fun x => (x.scheduler, x.jobs)) ∧
      Tab.Feeds Cron.Snapshot.ofReport Cron.historyMethod (·.history)) ∧
    (Tab.Feeds Slop.Snapshot.ofReport Slop.statusMethod (·.loop) ∧
      Tab.Feeds Slop.Snapshot.ofReport Slop.statisticsMethod (·.figures?) ∧
      Tab.Feeds Slop.Snapshot.ofReport Slop.findingsMethod (·.findings)) ∧
    (Tab.Feeds Stats.Snapshot.ofReport Stats.summaryMethod (·.usage) ∧
      Tab.Feeds Stats.Snapshot.ofReport Stats.memoryMethod (·.modules)) ∧
    (Tab.Feeds Tools.Snapshot.ofReport Tools.modulesMethod (·.modules) ∧
      Tab.Feeds Tools.Snapshot.ofReport Tools.configMethod (·.settings)) ∧
    (∀ r r' : Tab.Report, r.outcomes.Perm r'.outcomes →
      (r.Covers Daemon.cron.methods → Cron.Snapshot.ofReport r = Cron.Snapshot.ofReport r') ∧
      (r.Covers Daemon.slop.methods → Slop.Snapshot.ofReport r = Slop.Snapshot.ofReport r') ∧
      (r.Covers Daemon.stats.methods → Stats.Snapshot.ofReport r = Stats.Snapshot.ofReport r') ∧
      (r.Covers Daemon.tools.methods → Tools.Snapshot.ofReport r = Tools.Snapshot.ofReport r')) ∧
    ∀ r : Tab.Report, r.Covers Daemon.slop.methods →
      ((Slop.Snapshot.ofReport r).hasAnyData = true ↔
        ∃ o ∈ r.outcomes, o.method ∈ Daemon.slop.methods ∧ o.contributes = true) := by
  refine ⟨⟨?jobs, ?history⟩, ⟨?loop, ?figures, ?findings⟩, ⟨?usage, ?stores⟩, ⟨?kits, ?settings⟩,
    ?order, fun r h => Slop.Snapshot.hasAnyData_iff h⟩
  case jobs =>
    exact .of_data? (fun data => (data.map fun x => x.truthOr Cron.Snapshot.schedulerFields true,
      (data.map Cron.Snapshot.jobsOf).getD [])) fun _ => rfl
  case history =>
    exact .of_data? (fun data => (data.map Cron.Snapshot.historyOf).getD []) fun _ => rfl
  case loop =>
    exact .of_contribution? (fun data => (data.map Slop.LoopStatus.ofJson).getD {})
      Slop.Snapshot.loop_ofReport
  case figures =>
    exact .of_contribution? (·.map Slop.Statistics.ofJson) Slop.Snapshot.figures?_ofReport
  case findings => exact .of_contribution? (·.map Slop.Snapshot.findingsOf) fun _ => rfl
  case usage => exact .of_data? (·.map Stats.Usage.ofJson) fun _ => rfl
  case stores => exact .of_data? (·.map Stats.Snapshot.modulesOf) fun _ => rfl
  case kits => exact .of_data? (·.map Tools.Snapshot.modulesOf) fun _ => rfl
  case settings => exact .of_data? (·.map Tools.Snapshot.settingsOf) fun _ => rfl
  case order =>
    intro r r' hp
    exact ⟨fun h => Cron.Snapshot.ofReport_congr fun _ hm => h.agreesOn_of_perm hp hm,
      fun h => Slop.Snapshot.ofReport_congr fun _ hm => h.agreesOn_of_perm hp hm,
      fun h => Stats.Snapshot.ofReport_congr fun _ hm => h.agreesOn_of_perm hp hm,
      fun h => Tools.Snapshot.ofReport_congr fun _ hm => h.agreesOn_of_perm hp hm⟩

/-- Figures stay what they are when the calls beside them, which failed or brought nothing, come out
    otherwise and in another order; and figures alone are data to show. -/
theorem calls_feed_their_own_parts_figures :
    let figures : Tab.Outcome := ⟨"getStatistics", .ok (.object [("total", .int 3)])⟩
    let r : Tab.Report := ⟨[⟨"getStatus", .failure "down"⟩, ⟨"getFindings", .done⟩, figures]⟩
    let r' : Tab.Report :=
      ⟨[figures, ⟨"getStatus", .ok (.object [("running", .bool true)])⟩,
        ⟨"getFindings", .failure "down"⟩]⟩
    (r.AgreesOn r' Slop.statisticsMethod ∧ r.Covers Daemon.slop.methods) ∧
      (Slop.Snapshot.ofReport r).figures? = (Slop.Snapshot.ofReport r').figures? ∧
      Slop.Snapshot.ofReport r = Slop.Snapshot.ofReport ⟨r.outcomes.reverse⟩ ∧
      (Slop.Snapshot.ofReport r).hasAnyData = true := by
  intro figures r r'
  have hagrees : r.AgreesOn r' Slop.statisticsMethod := rfl
  have hcovers : r.Covers Daemon.slop.methods :=
    Tab.Report.covers_of_map_method rfl Daemon.slop.nodup_methods
  obtain ⟨-, ⟨-, hfigures, -⟩, -, -, horder, hdata⟩ := calls_feed_their_own_parts
  refine ⟨⟨hagrees, hcovers⟩, hfigures r r' hagrees, ?_, (hdata r hcovers).mpr ?_⟩
  · exact (horder r ⟨r.outcomes.reverse⟩ (List.reverse_perm _).symm).2.1 hcovers
  · exact ⟨figures, by simp [r], by decide, rfl⟩

end Dashboard
