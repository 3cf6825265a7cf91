import Dashboard.Proofs.TabTurns
import Mathlib.Data.List.Basic
/-!
# Tabs show what was loaded last

Loads of one tab overlap, with each other and with mutations, and end in any order. Once none of
them is in flight, the tab shows what the load brought that began last, and that load began after
every mutation that is complete.

* `LatestSince`, `AppliedLast` — the load that began last and the report that was applied last, in
  the log of a tab.
* `Tab.ShowsLatest` — the tab shows the report of the load that began last.
* `Share.Fresh` — what every step keeps, `Share.Step.fresh` — that it does.
* `drained_tab_shows_latest_load` — what holds in every course.
-/

namespace Dashboard

open Panel Session Relation

/-! ### What a tab shows -/

/-- Whether the loads of a tab show a report: its snapshot, or the error that stands for it. -/
def Tab.LoadState.Shows {σ : Type} (s : LoadState σ) (normalize : Report → σ) (report : Report) :
    Prop :=
  if report.anySuccess then s.snapshot = some (normalize report) ∧ s.lastError = none
  else s.lastError = some report.summary

/-- Whether a tab shows a report. -/
def Tab.Shows (t : Tab) (report : Report) : Prop :=
  match t with
  | cron s => s.load.Shows Cron.Snapshot.ofReport report
  | stats s => s.load.Shows Stats.Snapshot.ofReport report
  | slop s => s.load.Shows Slop.Snapshot.ofReport report
  | tools s => s.load.Shows Tools.Snapshot.ofReport report
  | context s => s.load.Shows Context.Snapshot.ofReport report

/-- A report that is applied is shown. -/
theorem Tab.LoadState.shows_apply {σ : Type} (s : LoadState σ) (report : Report)
    (normalize : Report → σ) : (s.apply report normalize).Shows normalize report := by
  cases hr : report.anySuccess with
  | true => simp [Shows, s.apply_of_success hr, hr]
  | false => simp [Shows, s.apply_of_failure hr, hr]

/-- A tab shows the report of the load that began last once this has ended. -/
theorem Tab.shows_complete (t : Tab) (report : Report) :
    (t.complete t.status.issued report).2.Shows report := by
  cases t <;>
    simp only [complete, status, LoadState.status, LoadState.complete_current, Shows] <;>
    exact LoadState.shows_apply ..

/-- Loads that are alike show the same report. -/
theorem Tab.LoadState.Alike.shows {σ : Type} {s s' : LoadState σ} (h : s.Alike s')
    {normalize : Report → σ} {report : Report} (hs : s.Shows normalize report) :
    s'.Shows normalize report := by
  obtain ⟨n, rfl⟩ := h
  exact hs

/-- Tabs that are alike show the same. -/
theorem Tab.Alike.shows {t t' : Tab} (h : t.Alike t') {report : Report} (ht : t.Shows report) :
    t'.Shows report := by
  cases h <;> exact LoadState.Alike.shows ‹_› ht

/-! ### The log of a tab -/

/-- The load that began last in the log of the tab at a place, by its ticket, with what happened
    since. No mutation has ended since. -/
def LatestSince (i ticket : Nat) (log since : List Event) : Prop :=
  ∃ daemon queries before,
    log = before ++ .started (.load i ticket daemon queries) :: since ∧
      ∀ e ∈ since, e.startsLoad = false ∧ e.endsChange = false

/-- The report that was applied last, by the ticket of its load. -/
def AppliedLast (i ticket : Nat) (report : Tab.Report) (log : List Event) : Prop :=
  ∃ before after, log = before ++ .ended (.loaded i ticket report) true :: after ∧
    ∀ e ∈ after, e.appliesLoad = false

/-- The tab shows the report of the load that began last, and no other was applied since, nor was a
    mutation complete since that load began. -/
def Tab.ShowsLatest (t : Tab) (i : Nat) (log : List Event) : Prop :=
  ∃ since report, LatestSince i t.status.issued log since ∧
    AppliedLast i t.status.issued report since ∧ t.Shows report

/-- A load began, and later a mutation ended. -/
def Overtaken (i ticket : Nat) (log : List Event) : Prop :=
  ∃ daemon queries reply taken,
    [.started (.load i ticket daemon queries), .ended (.changed i reply) taken].Sublist log

/-- A load began, later a mutation ended, and after that the load was applied. -/
def AppliedLate (i : Nat) (log : List Event) : Prop :=
  ∃ ticket daemon queries reply taken report,
    [.started (.load i ticket daemon queries), .ended (.changed i reply) taken,
      .ended (.loaded i ticket report) true].Sublist log

/-- A load stays the latest until another begins or a mutation ends. -/
theorem LatestSince.snoc {i ticket : Nat} {log since : List Event} {e : Event}
    (h : LatestSince i ticket log since) (hl : e.startsLoad = false) (hc : e.endsChange = false) :
    LatestSince i ticket (log ++ [e]) (since ++ [e]) := by
  obtain ⟨daemon, queries, before, rfl, hsince⟩ := h
  refine ⟨daemon, queries, before, by simp, fun f hf => ?_⟩
  rcases List.mem_append.mp hf with hf | hf
  · exact hsince f hf
  · obtain rfl := List.mem_singleton.mp hf
    exact ⟨hl, hc⟩

/-- A report stays the last until another is applied. -/
theorem AppliedLast.snoc {i ticket : Nat} {report : Tab.Report} {log : List Event} {e : Event}
    (h : AppliedLast i ticket report log) (he : e.appliesLoad = false) :
    AppliedLast i ticket report (log ++ [e]) := by
  obtain ⟨before, after, rfl, hafter⟩ := h
  refine ⟨before, after ++ [e], by simp, fun f hf => ?_⟩
  rcases List.mem_append.mp hf with hf | hf
  · exact hafter f hf
  · obtain rfl := List.mem_singleton.mp hf
    exact he

/-- What occurs in order in a list and one thing more occurs in the list alone, or it ends with the
    one thing. -/
theorem sublist_snoc {α : Type} {k l : List α} {a b : α} (h : (k ++ [a]).Sublist (l ++ [b])) :
    (k ++ [a]).Sublist l ∨ k.Sublist l ∧ a = b := by
  have hr : (a :: k.reverse).Sublist (b :: l.reverse) := by
    simpa using List.reverse_sublist.mpr h
  rcases List.cons_sublist_cons'.mp hr with hl | ⟨hab, hl⟩
  · exact .inl (List.reverse_sublist.mp (by simpa using hl))
  · exact .inr ⟨List.reverse_sublist.mp hl, hab⟩

/-- A load is overtaken when a mutation ends, or it was overtaken before. -/
theorem Overtaken.of_snoc {i ticket : Nat} {log : List Event} {e : Event}
    (h : Overtaken i ticket (log ++ [e])) :
    Overtaken i ticket log ∨
      e.endsChange = true ∧ ∃ daemon queries, .started (.load i ticket daemon queries) ∈ log := by
  obtain ⟨daemon, queries, reply, taken, hpair⟩ := h
  rcases sublist_snoc (k := [_]) hpair with hlog | ⟨hstart, rfl⟩
  · exact .inl ⟨daemon, queries, reply, taken, hlog⟩
  · exact .inr ⟨rfl, daemon, queries, List.singleton_sublist.mp hstart⟩

/-- A load that is overtaken began before. -/
theorem Overtaken.started {i ticket : Nat} {log : List Event} (h : Overtaken i ticket log) :
    ∃ daemon queries, .started (.load i ticket daemon queries) ∈ log := by
  obtain ⟨daemon, queries, reply, taken, hpair⟩ := h
  exact ⟨daemon, queries, hpair.subset (by simp)⟩

/-- A load is applied late when an overtaken one is applied, or it was before. -/
theorem AppliedLate.of_snoc {i : Nat} {log : List Event} {e : Event}
    (h : AppliedLate i (log ++ [e])) :
    AppliedLate i log ∨
      ∃ ticket report, Overtaken i ticket log ∧ e = .ended (.loaded i ticket report) true := by
  obtain ⟨ticket, daemon, queries, reply, taken, report, htriple⟩ := h
  rcases sublist_snoc (k := [_, _]) htriple with hlog | ⟨hpair, rfl⟩
  · exact .inl ⟨ticket, daemon, queries, reply, taken, report, hlog⟩
  · exact .inr ⟨ticket, report, ⟨daemon, queries, reply, taken, hpair⟩, rfl⟩

/-! ### What every step keeps -/

/-- What holds of a tab in every course. -/
structure Share.Fresh (i : Nat) (s : Share) : Prop where
  /-- The load that began last is in flight, or the tab shows its report. -/
  latest : (∃ e ∈ s.log, e.startsLoad = true) →
    ∃ since, LatestSince i s.tab.status.issued s.log since ∧
      ((∃ daemon queries, .load i s.tab.status.issued daemon queries ∈ s.inFlight) ∨
        ∃ report, AppliedLast i s.tab.status.issued report since ∧ s.tab.Shows report)
  /-- Tickets are given in order. -/
  ticket_le : ∀ ticket daemon queries,
    .started (.load i ticket daemon queries) ∈ s.log → ticket ≤ s.tab.status.issued
  /-- After a load that was overtaken another one began. -/
  overtaken_lt : ∀ ticket, Overtaken i ticket s.log → ticket < s.tab.status.issued
  notLate : ¬ AppliedLate i s.log

namespace Share.Fresh

variable {i : Nat} {s : Share}

/-- A tab before its first load. -/
theorem new (t : Tab) : Fresh i ⟨t, [], []⟩ where
  latest := by simp
  ticket_le := by simp
  overtaken_lt := by simp [Overtaken]
  notLate := by simp [AppliedLate]

/-- The load that began last is the one that it was, unless one begins or a mutation ends. -/
theorem latest_of_snoc (h : s.Fresh i) {e : Event} (hl : e.startsLoad = false)
    (hc : e.endsChange = false) (hbegun : ∃ f ∈ s.log ++ [e], f.startsLoad = true) :
    ∃ since, LatestSince i s.tab.status.issued (s.log ++ [e]) (since ++ [e]) ∧
      ((∃ daemon queries, .load i s.tab.status.issued daemon queries ∈ s.inFlight) ∨
        ∃ report, AppliedLast i s.tab.status.issued report since ∧ s.tab.Shows report) := by
  obtain ⟨f, hf, hfl⟩ := hbegun
  have hbegun : ∃ f ∈ s.log, f.startsLoad = true := by
    rcases List.mem_append.mp hf with hf | hf
    · exact ⟨f, hf, hfl⟩
    · obtain rfl := List.mem_singleton.mp hf
      simp [hl] at hfl
  obtain ⟨since, hsince, hlast⟩ := h.latest hbegun
  exact ⟨since, hsince.snoc hl hc, hlast⟩

/-- No ticket is given unless a load begins. -/
theorem ticket_le_of_snoc (h : s.Fresh i) {e : Event} (hl : e.startsLoad = false) {ticket : Nat}
    {daemon : Daemon} {queries : List Tab.Query}
    (hmem : .started (.load i ticket daemon queries) ∈ s.log ++ [e]) :
    ticket ≤ s.tab.status.issued := by
  rcases List.mem_append.mp hmem with hmem | hmem
  · exact h.ticket_le ticket daemon queries hmem
  · obtain rfl := List.mem_singleton.mp hmem
    simp [Event.startsLoad, Work.isLoad] at hl

/-- No load is overtaken unless a mutation ends. -/
theorem overtaken_lt_of_snoc (h : s.Fresh i) {e : Event} (hc : e.endsChange = false) {ticket : Nat}
    (ho : Overtaken i ticket (s.log ++ [e])) : ticket < s.tab.status.issued := by
  rcases ho.of_snoc with ho | ⟨hce, -⟩
  · exact h.overtaken_lt ticket ho
  · simp [hc] at hce

/-- Something happens that neither begins a load nor ends one to some effect nor ends a mutation. -/
theorem idle (h : s.Fresh i) {t : Tab} {work : List Work} {e : Event} (ha : s.tab.Alike t)
    (hl : e.startsLoad = false) (hc : e.endsChange = false) (he : e.appliesLoad = false)
    (hw : ∀ daemon queries, .load i s.tab.status.issued daemon queries ∈ s.inFlight →
      .load i s.tab.status.issued daemon queries ∈ work) :
    Fresh i ⟨t, work, s.log ++ [e]⟩ where
  -- Nothing that began, ended or was applied is told by the event, so all is as before.
  latest hbegun := by
    obtain ⟨since, hsince, hlast⟩ := h.latest_of_snoc hl hc hbegun
    refine ⟨since ++ [e], by rw [ha.issued_eq]; exact hsince, ?_⟩
    rw [ha.issued_eq]
    rcases hlast with ⟨daemon, queries, hfly⟩ | ⟨report, happlied, hshows⟩
    · exact .inl ⟨daemon, queries, hw daemon queries hfly⟩
    · exact .inr ⟨report, happlied.snoc he, ha.shows hshows⟩
  ticket_le ticket daemon queries hmem := by
    rw [ha.issued_eq]
    exact h.ticket_le_of_snoc hl hmem
  overtaken_lt ticket ho := by
    rw [ha.issued_eq]
    exact h.overtaken_lt_of_snoc hc ho
  notLate hlate := by
    rcases hlate.of_snoc with hlate | ⟨ticket, report, -, rfl⟩
    · exact h.notLate hlate
    · simp [Event.appliesLoad] at he

/-- The tab asks to be drawn again. -/
theorem redraw (h : s.Fresh i) {t : Tab} (ha : s.tab.Alike t) : Fresh i { s with tab := t } where
  latest hbegun := by
    obtain ⟨since, hsince, hlast⟩ := h.latest hbegun
    refine ⟨since, by rw [ha.issued_eq]; exact hsince, ?_⟩
    rw [ha.issued_eq]
    exact hlast.imp id fun ⟨report, happlied, hshows⟩ => ⟨report, happlied, ha.shows hshows⟩
  ticket_le := by rw [ha.issued_eq]; exact h.ticket_le
  overtaken_lt := by rw [ha.issued_eq]; exact h.overtaken_lt
  notLate := h.notLate

/-- A load begins. Of what happened before, only the order of tickets matters, and that no load was
    applied late. -/
theorem begins {t : Tab} {work : List Work} {log : List Event}
    (hle : ∀ ticket daemon queries,
      .started (.load i ticket daemon queries) ∈ log → ticket ≤ t.status.issued)
    (hlate : ¬ AppliedLate i log) :
    Fresh i ⟨t.begin.2, work ++ [t.loadWork i], log ++ [.started (t.loadWork i)]⟩ where
  latest _ := by
    refine ⟨[], ⟨t.daemon, t.queries, log, by simp [Tab.loadWork], by simp⟩, .inl ?_⟩
    exact ⟨t.daemon, t.queries, by simp [Tab.loadWork]⟩
  ticket_le ticket daemon queries hmem := by
    rw [Tab.issued_begin]
    rcases List.mem_append.mp hmem with hmem | hmem
    · have := hle ticket daemon queries hmem
      omega
    · have hnew := List.mem_singleton.mp hmem
      simp only [Tab.loadWork, Event.started.injEq, Work.load.injEq] at hnew
      have hticket : ticket = t.status.issued + 1 := hnew.2.1.trans t.begin_fst
      exact Nat.le_of_eq hticket
  overtaken_lt ticket ho := by
    rw [Tab.issued_begin]
    -- All loads that were overtaken began before this one.
    rcases ho.of_snoc with ho | ⟨hce, -⟩
    · obtain ⟨daemon, queries, hmem⟩ := ho.started
      have := hle ticket daemon queries hmem
      omega
    · simp [Event.endsChange] at hce
  notLate hl := by
    rcases hl.of_snoc with hl | ⟨ticket, report, -, he⟩
    · exact hlate hl
    · cases he

/-- The load that began last ends. -/
theorem apply (h : s.Fresh i) (work : List Work) (report : Tab.Report) :
    Fresh i ⟨(s.tab.complete s.tab.status.issued report).2, work,
      s.log ++ [.ended (.loaded i s.tab.status.issued report) true]⟩ where
  latest hbegun := by
    -- Whatever was applied since the load began, its own report now comes last.
    obtain ⟨since, hsince, -⟩ := h.latest_of_snoc rfl rfl hbegun
    rw [Tab.issued_complete]
    refine ⟨_, hsince, .inr ⟨report, ⟨since, [], rfl, by simp⟩, ?_⟩⟩
    exact s.tab.shows_complete report
  ticket_le ticket daemon queries hmem := by
    rw [Tab.issued_complete]
    exact h.ticket_le_of_snoc rfl hmem
  overtaken_lt ticket ho := by
    rw [Tab.issued_complete]
    exact h.overtaken_lt_of_snoc rfl ho
  notLate hlate := by
    rcases hlate.of_snoc with hlate | ⟨ticket, report', ho, he⟩
    · exact h.notLate hlate
    · -- The load that began last was not overtaken, for another one would have begun after it.
      have hlt := h.overtaken_lt ticket ho
      simp only [Event.ended.injEq, Completion.loaded.injEq] at he
      omega

end Share.Fresh

/-- A step keeps that the latest load is in flight or shown. -/
theorem Share.Step.fresh {i : Nat} {signals : List String} {s s' : Share}
    (hstep : Share.Step i signals s s') (h : s.Fresh i) : s'.Fresh i := by
  cases hstep with
  | rest => exact h
  | asks hm => exact h.idle (.refl _) rfl rfl rfl fun _ _ hw => List.mem_append_left _ hw
  | redraw ha hs => exact h.redraw ha
  | reload ha => exact .begins (by rw [ha.issued_eq]; exact h.ticket_le) h.notLate
  | stale hw ht => exact h.idle (.refl _) rfl rfl rfl fun _ _ hmem => latest_stays hw ht hmem
  | apply hw hq hs => exact h.apply _ _
  | @change before after m reply hw =>
    -- The mutation ends before its load begins, so nothing has ended since the last load.
    rw [show s.log ++ [.ended (.changed i reply) true, .started (s.tab.loadWork i)] =
      (s.log ++ [.ended (.changed i reply) true]) ++ [.started (s.tab.loadWork i)] by simp]
    refine .begins (fun _ _ _ hmem => h.ticket_le_of_snoc rfl hmem) fun hlate => ?_
    rcases hlate.of_snoc with hlate | ⟨ticket, report, -, he⟩
    · exact h.notLate hlate
    · cases he

/-- Once a tab has begun a load and none is in flight, it shows the report of the load that began
    last, and no mutation was complete after that load began. A load that was in flight when a
    mutation ended is never applied. -/
theorem drained_tab_shows_latest_load {p : Panel} {x y : Course} (hx : Course.Opens p x)
    (hxy : ReflTransGen Course.Next x y) {i : Nat} {t : Tab}
    (ht : y.session.panel.tabs[i]? = some t) :
    ((∃ e ∈ y.logAt i, e.startsLoad = true) → (∀ w ∈ y.inFlightAt i, w.isLoad = false) →
      t.ShowsLatest i (y.logAt i)) ∧ ¬ AppliedLate i (y.logAt i) := by
  have hfresh : Share.Fresh i ⟨t, y.inFlightAt i, y.logAt i⟩ :=
    share_induction Share.Fresh.new (fun _ _ _ hstep => hstep.fresh) hx hxy
      (Course.share?_of_tab ht)
  refine ⟨fun hbegun hdrained => ?_, hfresh.notLate⟩
  obtain ⟨since, hsince, hfly | happlied⟩ := hfresh.latest hbegun
  · obtain ⟨daemon, queries, hw⟩ := hfly
    simpa [Work.isLoad] using hdrained _ hw
  · obtain ⟨report, happlied, hshows⟩ := happlied
    exact ⟨since, report, hsince, happlied, hshows⟩

/-- A mutation is complete while the first load is in flight. Its load ends first, and then the
    first load ends too late. -/
theorem drained_tab_shows_latest_load_overtaken :
    let p : Panel := .ofTabs [.new .cron 3 20]
    let run : Command := { name := "runCronJobNow", arguments := [("name", .string "backup")] }
    let report (r : Reply) : Tab.Report := ⟨[⟨"getJobs", r⟩, ⟨"getHistory", r⟩]⟩
    let y := (Course.first p ⟨0, 0⟩).follow ⟨0, 0⟩
      [ .receive run, .settle 1 (.changed 0 .done)
      , .settle 1 (.loaded 0 2 (report (.failure "refused")))
      , .settle 0 (.loaded 0 1 (report .done)) ]
    ReflTransGen Course.Next (Course.first p ⟨0, 0⟩) y ∧
      ∃ t, y.session.panel.tabs[0]? = some t ∧
        t.ShowsLatest 0 (y.logAt 0) ∧ ¬ AppliedLate 0 (y.logAt 0) := by
  intro p run report y
  have hy : ReflTransGen Course.Next (Course.first p ⟨0, 0⟩) y :=
    Course.reaches_of_at (Course.reaches_follow (by decide +kernel))
  have hbegun : (y.logAt 0).any Event.startsLoad = true := by decide +kernel
  have hdrained : (y.inFlightAt 0).any Work.isLoad = false := by decide +kernel
  obtain ⟨t, ht⟩ : ∃ t, y.session.panel.tabs[0]? = some t :=
    Option.isSome_iff_exists.mp (by decide +kernel)
  obtain ⟨hshows, hlate⟩ := drained_tab_shows_latest_load (.first ⟨0, 0⟩) hy ht
  refine ⟨hy, t, ht, hshows (List.any_eq_true.mp hbegun) fun w hw => ?_, hlate⟩
  exact Bool.eq_false_iff.mpr (List.any_eq_false.mp hdrained w hw)

end Dashboard
