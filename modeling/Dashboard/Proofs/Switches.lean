import Dashboard.Proofs.ReachedTabs
import Dashboard.Tab.Switch
/-!
# What is switched

A command that does not say which state it asks for turns round the state that was reported. What
was reported is in the report that the snapshot of the tab was made of.

* `Tab.Sourced` — a tab after any loads and commands, with the report of its snapshot;
  `Tab.Sourced.isMadeOf` — the snapshot is made of it.
* `Cron.State.toggleScheduler_is` and its likes — what each command comes to, in terms of reports.
* `switches_turn_reported_states` — all of them, with the one case in which what is turned round was
  not reported.
* `figures_alone_start_loop` — that case.
-/

namespace Dashboard

/-- A tab after any loads and commands, with the report that its snapshot was made of. -/
inductive Tab.Sourced : Tab → Option Tab.Report → Prop
  | new (d : Daemon) (cap historyLimit : Nat) : Sourced (.new d cap historyLimit) none
  | begin {t : Tab} {source : Option Tab.Report} (h : Sourced t source) : Sourced t.begin.2 source
  | complete {t : Tab} {source : Option Tab.Report} (h : Sourced t source) (ticket : Nat)
      (report : Tab.Report) :
    Sourced (t.complete ticket report).2
      (if ticket = t.status.issued ∧ report.anySuccess = true then some report else source)
  | react {t : Tab} {source : Option Tab.Report} (h : Sourced t source) (c : Command) :
    Sourced (t.react c).1 source

/-! ### The report behind a snapshot -/

namespace Tab

variable {t : Tab} {source : Option Report}

/-- The snapshot of the tab is what it makes of a report. -/
def IsMadeOf : Tab → Option Report → Prop
  | cron s, source => s.load.snapshot = source.map Cron.Snapshot.ofReport
  | stats s, source => s.load.snapshot = source.map Stats.Snapshot.ofReport
  | slop s, source => s.load.snapshot = source.map Slop.Snapshot.ofReport
  | tools s, source => s.load.snapshot = source.map Tools.Snapshot.ofReport
  | context s, source => s.load.snapshot = source.map Context.Snapshot.ofReport

/-- A snapshot is made of the report of the load that began last, if one of its calls succeeded, and
    of none other. -/
theorem LoadState.snapshot_complete {σ : Type} (s : LoadState σ) (ticket : Nat) (report : Report)
    (normalize : Report → σ) :
    (s.complete ticket report normalize).2.snapshot =
      if ticket = s.issued ∧ report.anySuccess = true then some (normalize report)
      else s.snapshot := by
  unfold complete isCurrent apply
  by_cases ht : ticket = s.issued <;> cases hs : report.anySuccess <;> simp [ht]

theorem isMadeOf_new (d : Daemon) (cap historyLimit : Nat) :
    (new d cap historyLimit).IsMadeOf none := by
  cases d <;> rfl

/-- The end of a load replaces the report that the snapshot is made of exactly if it is applied. -/
theorem IsMadeOf.complete (h : t.IsMadeOf source) (ticket : Nat) (report : Report) :
    (t.complete ticket report).2.IsMadeOf
      (if ticket = t.status.issued ∧ report.anySuccess = true then some report else source) := by
  by_cases hnew : ticket = t.status.issued ∧ report.anySuccess = true
  · rw [if_pos hnew]
    cases t <;> exact (LoadState.snapshot_complete ..).trans (if_pos hnew)
  · rw [if_neg hnew]
    cases t <;> exact (LoadState.snapshot_complete ..).trans ((if_neg hnew).trans h)

/-- Tabs that are alike have snapshots of the same report. -/
theorem Alike.isMadeOf {t' : Tab} (ha : t.Alike t') (h : t.IsMadeOf source) :
    t'.IsMadeOf source := by
  cases ha <;>
  · obtain ⟨n, hn⟩ := ‹LoadState.Alike _ _›
    simpa [IsMadeOf, hn] using h

/-- The snapshot of a tab is what it makes of the report that it has it from. -/
theorem Sourced.isMadeOf (h : t.Sourced source) : t.IsMadeOf source := by
  induction h with
  | new d cap historyLimit => exact isMadeOf_new d cap historyLimit
  | @begin t source _ ih => cases t <;> exact ih
  | complete _ ticket report ih => exact ih.complete ticket report
  | @react t source _ c ih =>
    -- No command changes what was loaded.
    have hreacts := t.reacts c
    generalize t.react c = answer at hreacts ⊢
    cases hreacts with
    | asks => exact ih
    | redraw ha | reload ha => exact ha.isMadeOf ih

end Tab

/-! ### The commands -/

section Commands

open Tab

variable {source : Option Report} (c : Command)

/-- Asking for the target state of a switch, if there is one, is what a command is to lead to. -/
theorem Tab.Switch.is_wanted? (x : Switch) (present : Option Bool) {refused : Reaction}
    (hr : refused.isHandled = false) :
    Reaction.Is
      (match targetState? (c.truth? x.argument) present with
        | some on => .change (x.mutation on)
        | none => refused)
      (x.wanted? c present) := by
  unfold wanted? targetState?
  cases c.truth? x.argument with
  | some on => rfl
  | none => cases present <;> first | rfl | exact hr

/-- Only of the loop a state is taken that was not reported. -/
theorem Tab.Switch.taken?_of_ne (x : Switch) (source : Option Report) (hx : x ≠ .loop) :
    x.taken? source = source.bind x.reported? :=
  if_neg fun h => hx h.1

/-- The state of the scheduler that the tab shows is the one it takes from the report. -/
theorem Cron.State.scheduler_eq {s : State} (h : s.load.snapshot = source.map Snapshot.ofReport) :
    s.load.snapshot.bind (·.scheduler) = Switch.scheduler.taken? source := by
  rw [h, Switch.taken?_of_ne .scheduler source nofun]
  cases source <;> rfl

/-- The switch of the scheduler asks for the state that the command wants, or for the opposite of
    the reported one. -/
theorem Cron.State.toggleScheduler_is {s : State}
    (h : s.load.snapshot = source.map Snapshot.ofReport) :
    (s.toggleScheduler c).Is (Switch.scheduler.wanted? c (Switch.scheduler.taken? source)) := by
  rw [toggleScheduler, scheduler_eq h]
  exact Switch.is_wanted? c .scheduler _ rfl

/-- The state of a job that the tab shows is the one it takes from the report. -/
theorem Cron.State.job_eq {s : State} (h : s.load.snapshot = source.map Snapshot.ofReport)
    (name : String) :
    (s.load.snapshot.bind (·.job? name)).map (·.enabled) = (Switch.job name).taken? source := by
  rw [h, Switch.taken?_of_ne (.job name) source nofun]
  cases source with
  | none => rfl
  | some r =>
    simp only [Option.map_some, Option.bind_some, Snapshot.ofReport, Snapshot.job?,
      Switch.reported?]
    cases r.data? jobsMethod <;> rfl

/-- The switch of a job asks for the state that the command wants, or for the opposite of the
    reported one. -/
theorem Cron.State.toggleJob_is {s : State} (h : s.load.snapshot = source.map Snapshot.ofReport) :
    (s.toggleJob c).Is
      (((c.word? "name").map Switch.job).bind fun x => x.wanted? c (x.taken? source)) := by
  unfold toggleJob
  cases c.word? "name" with
  | none => rfl
  | some name =>
    dsimp only
    rw [job_eq h]
    exact Switch.is_wanted? c (.job name) _ rfl

/-- The state of the loop that a snapshot shows. Figures alone make it one that does not run. -/
theorem Slop.State.loop_eq {s : State} (h : s.load.snapshot = source.map Snapshot.ofReport) :
    (s.load.snapshot.bind (·.status)).map (·.running) = Switch.loop.taken? source := by
  rw [h]
  cases source with
  | none => rfl
  | some r =>
    -- What is merged depends on which of the two calls brought something.
    simp only [Option.map_some, Option.bind_some, Snapshot.ofReport, Switch.taken?,
      Switch.reported?, Option.any_some, Report.tellsFiguresOnly]
    cases r.contribution? statusMethod with
    | none => cases r.contribution? statisticsMethod <;> rfl
    | some x => cases r.contribution? statisticsMethod <;> rfl

/-- The switch of the loop asks for the state that the command wants, or for the opposite of the one
    the tab takes. -/
theorem Slop.State.toggleLoop_is {s : State} (h : s.load.snapshot = source.map Snapshot.ofReport) :
    (s.toggleLoop c).Is (Switch.loop.wanted? c (Switch.loop.taken? source)) := by
  rw [toggleLoop, loop_eq h]
  exact Switch.is_wanted? c .loop _ rfl

/-- The state of a tool that the tab shows is the one it takes from the report. -/
theorem Tools.State.tool_eq {s : State} (h : s.load.snapshot = source.map Snapshot.ofReport)
    (module name : String) :
    ((s.load.snapshot.bind (·.module? module)).bind (·.tool? name)).map (·.enabled) =
      (Switch.tool module name).taken? source := by
  rw [h, Switch.taken?_of_ne (.tool module name) source nofun]
  cases source with
  | none => rfl
  | some r =>
    simp only [Option.map_some, Option.bind_some, Snapshot.ofReport, Snapshot.module?,
      Switch.reported?]
    cases r.data? modulesMethod <;> rfl

/-- The switch of a tool asks for the state that the command wants, or for the opposite of the
    reported one. -/
theorem Tools.State.toggleTool_is {s : State}
    (h : s.load.snapshot = source.map Snapshot.ofReport) :
    (s.toggleTool c).Is (((tools s).switch? c).bind fun x => x.wanted? c (x.taken? source)) := by
  simp only [toggleTool, switch?]
  cases c.word? "tool" with
  | none => rfl
  | some name =>
    rw [Option.bind_some]
    dsimp only
    generalize (c.word? "module").or _ = module
    cases module with
    | none => rfl
    | some module =>
      have hrefused : (Reaction.lackingFor c.name (module ++ "/" ++ name) .targetState).isHandled =
          false := rfl
      have his := Switch.is_wanted? c (.tool module name)
        ((Switch.tool module name).taken? source) hrefused
      dsimp only [Switch.argument] at his ⊢
      rw [tool_eq h]
      -- The two sides tell the cases of the target in different orders.
      generalize targetState? (c.truth? "enabled") _ = target at his ⊢
      cases target <;> exact his

/-- Whether a part is pinned is taken from the report. -/
theorem Context.State.item_eq {s : State} (h : s.load.snapshot = source.map Snapshot.ofReport)
    (id : String) :
    (s.load.snapshot.bind (·.item? id)).map (·.pinned) = (Switch.item id).taken? source := by
  rw [h, Switch.taken?_of_ne (.item id) source nofun]
  cases source with
  | none => rfl
  | some r =>
    simp only [Option.map_some, Option.bind_some, Snapshot.ofReport, Snapshot.item?,
      Switch.reported?]
    cases r.data? contextMethod <;> rfl

/-- A part is pinned or let go as the command wants, or else the opposite of what was reported. -/
theorem Context.State.pin_is {s : State} (h : s.load.snapshot = source.map Snapshot.ofReport) :
    (s.pin c).Is
      (((c.word? "id").map Switch.item).bind fun x => x.wanted? c (x.taken? source)) := by
  unfold pin
  cases c.word? "id" with
  | none => rfl
  | some id =>
    dsimp only
    rw [item_eq h]
    exact Switch.is_wanted? c (.item id) _ rfl

end Commands

namespace Tab

variable {t : Tab} {source : Option Report} {c : Command}

/-- What a command comes to that switches something, whatever the tab. -/
theorem Sourced.react_is (h : t.Sourced source) (hc : c.name ∈ t.daemon.switchWords) :
    (t.react c).2.Is ((t.switch? c).bind fun x => x.wanted? c (x.taken? source)) := by
  have hmade := h.isMadeOf
  -- Every switch is asked for by one command, but for the two of the job tab.
  cases t with
  | cron s =>
    rcases List.mem_cons.mp hc with hc | hc
    · have hverb : Cron.Verb.ofWord? c.name = some .toggleScheduler := by rw [hc]; decide
      simp only [Tab.react, Cron.State.react, hverb, switch?, if_pos hc]
      exact Cron.State.toggleScheduler_is c hmade
    · have hc := List.mem_singleton.mp hc
      have hverb : Cron.Verb.ofWord? c.name = some .toggleJob := by rw [hc]; decide
      have hother : c.name ≠ Cron.Verb.toggleScheduler.word := by rw [hc]; decide
      simp only [Tab.react, Cron.State.react, hverb, switch?, if_neg hother]
      exact Cron.State.toggleJob_is c hmade
  | stats s => cases hc
  | slop s =>
    have hverb : Slop.Verb.ofWord? c.name = some .toggleLoop := by
      rw [List.mem_singleton.mp hc]; decide
    simp only [Tab.react, Slop.State.react, hverb]
    exact Slop.State.toggleLoop_is c hmade
  | tools s =>
    have hverb : Tools.Verb.ofWord? c.name = some .toggleTool := by
      rw [List.mem_singleton.mp hc]; decide
    simp only [Tab.react, Tools.State.react, hverb]
    exact Tools.State.toggleTool_is c hmade
  | context s =>
    have hverb : Context.Verb.ofWord? c.name = some .pin := by
      rw [List.mem_singleton.mp hc]; decide
    simp only [Tab.react, Context.State.react, hverb]
    exact Context.State.pin_is c hmade

/-- Where nothing but figures was told, no state of the loop was reported. -/
theorem Switch.reported?_of_figures (hf : source.any Report.tellsFiguresOnly = true) :
    source.bind Switch.loop.reported? = none := by
  cases source with
  | none => rfl
  | some r =>
    obtain ⟨hstatus, -⟩ := (Bool.and_eq_true _ _).mp hf
    simp [reported?, Option.isNone_iff_eq_none.mp hstatus]

/-- What is taken for a state makes no difference where the command names one. -/
theorem Switch.wanted?_taken? {x : Switch}
    (h : ¬ (x = .loop ∧ c.truth? "enabled" = none ∧ source.any Report.tellsFiguresOnly = true)) :
    x.wanted? c (x.taken? source) = x.wanted? c (source.bind x.reported?) := by
  by_cases hx : x = .loop ∧ source.any Report.tellsFiguresOnly = true
  · obtain ⟨rfl, hf⟩ := hx
    cases hsays : c.truth? "enabled" with
    | none => exact absurd ⟨rfl, hsays, hf⟩ h
    | some on => simp only [wanted?, argument, hsays]
  · rw [taken?, if_neg hx]

/-- A load that began last and of which something succeeded is the source of the snapshot. -/
theorem Sourced.load (h : t.Sourced source) {report : Report} (hs : report.anySuccess = true) :
    (t.begin.2.complete t.begin.1 report).2.Sourced (some report) := by
  have hticket : t.begin.1 = t.begin.2.status.issued := by simp
  simpa [hticket, hs] using h.begin.complete t.begin.1 report

end Tab

/-- What a command comes to that switches something, in any state that loads and commands lead to.
    It is to ask for the state that it names, or else for the opposite of what the call about the
    switch told when the snapshot was loaded, and is not to be handled where neither is there. That
    is so but for one case, in which the command says nothing and all that was told of the loop is
    figures: then the loop is started. -/
theorem switches_turn_reported_states {t : Tab} {source : Option Tab.Report} (h : t.Sourced source)
    {c : Command} (hc : c.name ∈ t.daemon.switchWords) :
    let untold := t.switch? c = some .loop ∧ c.truth? "enabled" = none ∧
      source.any Tab.Report.tellsFiguresOnly = true
    ((t.react c).2.Is ((t.switch? c).bind fun x => x.wanted? c (source.bind x.reported?)) ↔
      ¬ untold) ∧
    (untold → (t.react c).2 = .change (Tab.Switch.loop.mutation true)) := by
  intro untold
  have his := h.react_is hc
  by_cases hu : untold
  · have hstarts : (t.react c).2 = .change (Tab.Switch.loop.mutation true) := by
      rw [hu.1, Option.bind_some, Tab.Switch.taken?, if_pos ⟨rfl, hu.2.2⟩] at his
      simp only [Tab.Switch.wanted?, Tab.Switch.argument, hu.2.1] at his
      exact his
    refine ⟨iff_of_false ?_ (not_not_intro hu), fun _ => hstarts⟩
    -- No state was reported, so the command is not to be handled.
    rw [hu.1, Option.bind_some, Tab.Switch.reported?_of_figures hu.2.2, hstarts]
    simp only [Tab.Switch.wanted?, Tab.Switch.argument, hu.2.1]
    exact Bool.noConfusion
  · refine ⟨iff_of_true ?_ hu, fun h => absurd h hu⟩
    cases hx : t.switch? c with
    | none => rwa [hx] at his
    | some x =>
      rw [hx, Option.bind_some] at his
      rwa [Option.bind_some, ← Tab.Switch.wanted?_taken? fun h => hu ⟨h.1 ▸ hx, h.2⟩]

/-- A job that was reported as switched on is switched off, though other calls failed. -/
theorem switches_turn_reported_states_job :
    let report : Tab.Report :=
      ⟨[⟨"getJobs", .ok (.array [.object [("enabled", .bool true), ("name", .string "backup")]])⟩,
        ⟨"getHistory", .failure "down"⟩]⟩
    let t := ((Tab.new .cron 3 20).begin.2.complete 1 report).2
    let c : Command := { name := "toggleCronJob", arguments := [("name", .string "backup")] }
    (t.Sourced (some report) ∧ c.name ∈ t.daemon.switchWords) ∧
      (t.react c).2 = .change ((Tab.Switch.job "backup").mutation false) := by
  intro report t c
  have h : t.Sourced (some report) := .load (.new .cron 3 20) rfl
  have hc : c.name ∈ t.daemon.switchWords := by decide
  have hjob : t.switch? c = some (.job "backup") := by rfl
  refine ⟨⟨h, hc⟩, ?_⟩
  have hclaimed := (switches_turn_reported_states h hc).1.mpr fun hu => by simp [hjob] at hu
  rw [hjob] at hclaimed
  exact hclaimed

/-- If all that a load told of the loop is figures, a command that names no state starts it. -/
theorem figures_alone_start_loop :
    let report : Tab.Report :=
      ⟨[⟨"getStatus", .failure "down"⟩, ⟨"getFindings", .failure "down"⟩,
        ⟨"getStatistics", .ok (.object [("total", .int 3)])⟩]⟩
    let t := ((Tab.new .slop 3 20).begin.2.complete 1 report).2
    let c : Command := { name := "slopToggleLoop" }
    t.Sourced (some report) ∧ c.truth? "enabled" = none ∧
      report.contribution? Slop.statusMethod = none ∧
      (t.react c).2 = .change (Tab.Switch.loop.mutation true) := by
  intro report t c
  exact ⟨Tab.Sourced.load (.new .slop 3 20) rfl, rfl, rfl, rfl⟩

end Dashboard
