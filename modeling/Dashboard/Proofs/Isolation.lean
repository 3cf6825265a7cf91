import Dashboard.Panel.Service
import Dashboard.Proofs.Addressing
import Dashboard.Proofs.ScriptAgreement
/-!
# Tabs are isolated

What becomes of the tab on a daemon, and what the daemon is asked, depends on nothing that the other
daemons answer.

* `Panel.AgreeAt` — two panels with tabs on the same daemons, and with the same tab on one of them.
* `Panel.SameAt` — steps on two panels that come to the same for that tab; handling a command is
  such a step by `Panel.AgreeAt.dispatch`.
* `Panel.AgreeAt.apply_own`, `Panel.AgreeAt.apply_other` — what comes of work for that tab, and for
  others.
* `Panel.couples_drain` — work is coupled with the part of it that is for that tab.
* `tabs_are_isolated` — two runs by scripts that agree on a daemon.
-/

namespace Dashboard

open Rehearsal

namespace Panel

/-- Two panels have tabs on the same daemons, one daemon a tab, and the same tab on one daemon. Both
    have none on it if it is not among them. -/
structure AgreeAt (ds : List Daemon) (d : Daemon) (p p' : Panel) : Prop where
  distinct : ds.Nodup
  daemons : p.tabs.map Tab.daemon = ds
  daemons_right : p'.tabs.map Tab.daemon = ds
  tab : p.tabs[ds.idxOf d]? = p'.tabs[ds.idxOf d]?

/-- What steps on two panels come to is the same for the tab on a daemon. -/
structure SameAt (ds : List Daemon) (d : Daemon) (p : Panel) (work : List Work) (p' : Panel)
    (work' : List Work) : Prop where
  panels : p.AgreeAt ds d p'
  work : work.filter (·.index == ds.idxOf d) = work'.filter (·.index == ds.idxOf d)

/-- Work for the place of a daemon asks that daemon, and other work does not. -/
def Work.Fits (ds : List Daemon) (d : Daemon) (w : Work) : Prop :=
  w.daemon = d ↔ w.index = ds.idxOf d

variable {ds : List Daemon} {d : Daemon} {j : Nat} {p p' q q' : Panel} {t : Tab}
  {work work' : List Work}

namespace AgreeAt

theorem symm (h : p.AgreeAt ds d p') : p'.AgreeAt ds d p :=
  ⟨h.distinct, h.daemons_right, h.daemons, h.tab.symm⟩

theorem refl_left (h : p.AgreeAt ds d p') : p.AgreeAt ds d p :=
  ⟨h.distinct, h.daemons, h.daemons, rfl⟩

theorem trans {p'' : Panel} (h : p.AgreeAt ds d p') (h' : p'.AgreeAt ds d p'') :
    p.AgreeAt ds d p'' :=
  ⟨h.distinct, h.daemons, h'.daemons_right, h.tab.trans h'.tab⟩

theorem nodup (h : p.AgreeAt ds d p') : (p.tabs.map Tab.daemon).Nodup := h.daemons ▸ h.distinct

theorem getElem?_daemons (h : p.AgreeAt ds d p') (hj : p.tabs[j]? = some t) :
    ds[j]? = some t.daemon := by
  simp [← h.daemons, hj]

/-- Tabs at one place are on one daemon. -/
theorem exists_tab (h : p.AgreeAt ds d p') (hj : p.tabs[j]? = some t) :
    ∃ u, p'.tabs[j]? = some u ∧ u.daemon = t.daemon := by
  have hd := h.getElem?_daemons hj
  rw [← h.daemons_right] at hd
  simpa using hd

/-- The tab on the daemon stands at the daemon's place. -/
theorem place (h : p.AgreeAt ds d p') (hj : p.tabs[j]? = some t) :
    t.daemon = d ↔ j = ds.idxOf d := by
  obtain ⟨hlt, hdaemon⟩ := List.getElem?_eq_some_iff.mp (h.getElem?_daemons hj)
  rw [← hdaemon]
  constructor
  · rintro rfl
    exact (h.distinct.idxOf_getElem j hlt).symm
  · rintro rfl
    exact List.getElem_idxOf hlt

/-- Panels agree as long as the daemons of their tabs stay and the tab at the place is the same. -/
theorem of_step (h : p.AgreeAt ds d p') (hq : q.tabs.map Tab.daemon = p.tabs.map Tab.daemon)
    (hq' : q'.tabs.map Tab.daemon = p'.tabs.map Tab.daemon)
    (htab : q.tabs[ds.idxOf d]? = q'.tabs[ds.idxOf d]?) : q.AgreeAt ds d q' :=
  ⟨h.distinct, hq.trans h.daemons, hq'.trans h.daemons_right, htab⟩

end AgreeAt

/-- All work that a step makes is for the daemon at its place. -/
theorem AgreeAt.fits (h : p.AgreeAt ds d p') (hm : p.Moves q work) :
    ∀ w ∈ work, w.Fits ds d := by
  intro w hw
  have hlt := hm.inRange w hw
  have hj : p.tabs[w.index]? = some p.tabs[w.index] := List.getElem?_eq_getElem hlt
  obtain ⟨t', -, hturn⟩ := hm.turn w.index _ hj
  -- The work is for the daemon of the tab that stands where it is to be done.
  rw [Work.Fits, hturn.work_daemon (List.mem_filter.mpr ⟨hw, by simp⟩)]
  exact h.place hj

/-! ### Steps on panels that agree -/

namespace AgreeAt

/-- Steps come to the same if they do so where there is a tab. -/
theorem of_moves (h : p.AgreeAt ds d p') (hq : p.Moves q work) (hq' : p'.Moves q' work')
    (hat : ∀ t, p.tabs[ds.idxOf d]? = some t → p'.tabs[ds.idxOf d]? = some t →
      q.tabs[ds.idxOf d]? = q'.tabs[ds.idxOf d]? ∧
        work.filter (·.index == ds.idxOf d) = work'.filter (·.index == ds.idxOf d)) :
    SameAt ds d q work q' work' := by
  cases hi : p.tabs[ds.idxOf d]? with
  | none =>
    obtain ⟨hnone, hnil⟩ := hq.none_at hi
    obtain ⟨hnone', hnil'⟩ := hq'.none_at (h.tab ▸ hi)
    exact ⟨h.of_step hq.daemons hq'.daemons (hnone.trans hnone'.symm), hnil.trans hnil'.symm⟩
  | some t =>
    obtain ⟨htab, hwork⟩ := hat t hi (h.tab ▸ hi)
    exact ⟨h.of_step hq.daemons hq'.daemons htab, hwork⟩

/-- All loads begin. -/
theorem beginAll (h : p.AgreeAt ds d p') :
    SameAt ds d p.beginAll.1 p.beginAll.2 p'.beginAll.1 p'.beginAll.2 := by
  refine h.of_moves p.beginAll_moves p'.beginAll_moves fun t hi hi' => ⟨?_, ?_⟩
  · simp [beginAll_eq, h.tab]
  · rw [filter_loads_at hi, filter_loads_at hi']

/-- A command is handed to the tabs at one place. -/
theorem address (h : p.AgreeAt ds d p') (j : Nat) (c : Command) :
    SameAt ds d (p.address j c).panel (p.address j c).work (p'.address j c).panel
      (p'.address j c).work := by
  refine h.of_moves (p.address_moves j c) (p'.address_moves j c) fun t hi hi' => ?_
  by_cases hj : j = ds.idxOf d
  · -- The tab and the work for it depend on nothing else in the panel.
    subst hj
    have hlt := (List.getElem?_eq_some_iff.mp hi).1
    have hlt' := (List.getElem?_eq_some_iff.mp hi').1
    rw [address_eq hi, address_eq hi']
    simp [hlt, hlt']
  · obtain ⟨htab, hwork⟩ := p.address_other hj c
    obtain ⟨htab', hwork'⟩ := p'.address_other hj c
    rw [htab, htab', hwork, hwork']
    exact ⟨h.tab, rfl⟩

/-- A command is handed to the tabs in turn. The tab that knows it stands at one place on both
    panels, and no tab before it takes the command. -/
theorem offer (h : p.AgreeAt ds d p') (c : Command) :
    SameAt ds d (p.offer c (List.range p.tabs.length)).panel
      (p.offer c (List.range p.tabs.length)).work
      (p'.offer c (List.range p'.tabs.length)).panel
      (p'.offer c (List.range p'.tabs.length)).work := by
  -- Whether a tab knows the command is the same on both panels, and so is its place.
  by_cases hk : ∃ (j : Nat) (t : Tab), p.tabs[j]? = some t ∧ t.Knows c
  · obtain ⟨j, t, hj, hknows⟩ := hk
    obtain ⟨u, hu, hdaemon⟩ := h.exists_tab hj
    have hknows' : u.Knows c := by rwa [Tab.Knows, hdaemon]
    have hmem {p : Panel} {t : Tab} (hj : p.tabs[j]? = some t) : j ∈ List.range p.tabs.length :=
      List.mem_range.mpr (List.getElem?_eq_some_iff.mp hj).1
    rw [offer_of_knows h.nodup hj hknows List.nodup_range (hmem hj),
      offer_of_knows h.symm.nodup hu hknows' List.nodup_range (hmem hu)]
    exact h.address j c
  · have hunknown (j : Nat) (t : Tab) (hj : p.tabs[j]? = some t) : ¬ t.Knows c :=
      fun hknows => hk ⟨j, t, hj, hknows⟩
    have hunknown' (j : Nat) (t : Tab) (hj : p'.tabs[j]? = some t) : ¬ t.Knows c := by
      obtain ⟨u, hu, hdaemon⟩ := h.symm.exists_tab hj
      rw [Tab.Knows, ← hdaemon]
      exact hunknown j u hu
    rw [offer_of_unknown fun j _ => hunknown j, offer_of_unknown fun j _ => hunknown' j]
    exact ⟨h, rfl⟩

/-- Tabs are found at the same places. -/
theorem index?_eq (h : p.AgreeAt ds d p') (id : String) : p.index? id = p'.index? id := by
  have hindex (p : Panel) : p.index? id =
      (p.tabs.map Tab.daemon).findIdx? fun d => (Tab.Identity.ofDaemon d).id == id := by
    rw [List.findIdx?_map]
    rfl
  rw [hindex, hindex, h.daemons, h.daemons_right]

/-- A command is handled. -/
theorem dispatch (h : p.AgreeAt ds d p') (c : Command) :
    SameAt ds d (p.dispatch c).panel (p.dispatch c).work (p'.dispatch c).panel
      (p'.dispatch c).work := by
  by_cases hs : c.name = selectWord
  · obtain ⟨htabs, hwork⟩ := p.select_tabs c
    obtain ⟨htabs', hwork'⟩ := p'.select_tabs c
    refine h.of_moves (p.dispatch_moves c) (p'.dispatch_moves c) fun t hi hi' => ?_
    simp [Panel.dispatch, hs, htabs, htabs', hwork, hwork', h.tab]
  by_cases hr : c.name = refreshWord
  · simpa [Panel.dispatch, hr, refreshWord, selectWord] using h.beginAll
  · cases hc : c.tab with
    | none => simpa [Panel.dispatch, hs, hr, hc] using h.offer c
    | some id =>
      -- The tab has the same place on both panels, or none.
      have hid := h.index?_eq id
      cases hj : p.index? id with
      | none => simpa [Panel.dispatch, hs, hr, hc, hj, hid ▸ hj] using ⟨h, rfl⟩
      | some j => simpa [Panel.dispatch, hs, hr, hc, hj, hid ▸ hj] using h.address j c

/-- What comes of work for the tab on the daemon. -/
theorem apply_own (h : p.AgreeAt ds d p') (done : Completion) (hi : done.index = ds.idxOf d) :
    (p.apply done).panel.AgreeAt ds d (p'.apply done).panel ∧
      (p.apply done).work.filter (·.index == ds.idxOf d) = (p'.apply done).work := by
  have htab : p.tabs[done.index]? = p'.tabs[done.index]? := hi ▸ h.tab
  obtain ⟨hat, hwork⟩ := apply_at htab
  refine ⟨h.of_step (p.daemons_apply done) (p'.daemons_apply done) (hi ▸ hat), ?_⟩
  rw [hwork]
  exact List.filter_eq_self.mpr fun w hw => by simp [(work_apply hw).1, hi]

/-- What comes of work for other tabs. -/
theorem apply_other (h : p.AgreeAt ds d p') (done : Completion) (hi : done.index ≠ ds.idxOf d) :
    (p.apply done).panel.AgreeAt ds d p' ∧
      (p.apply done).work.filter (·.index == ds.idxOf d) = [] := by
  obtain ⟨htab, hwork⟩ := Panel.apply_other hi
  exact ⟨h.of_step (p.daemons_apply done) rfl (htab.trans h.tab), hwork⟩

end AgreeAt

/-! ### Work is carried out -/

/-- A load is carried out and then the rest, or the rest alone where the load is for another tab. -/
theorem couples_load {p p' : Panel} (h : p.AgreeAt ds d p') {j ticket : Nat} {daemon : Daemon}
    {queries : List Tab.Query} {rest : List Work} (hfits : daemon = d ↔ j = ds.idxOf d)
    (hrest : ∀ {q q' : Panel}, q.AgreeAt ds d q' →
      Couples d (AgreeAt ds d) (q.drain rest : StateM Rehearsal Panel)
        (q'.drain (rest.filter (·.index == ds.idxOf d)))) :
    Couples d (AgreeAt ds d)
      (p.drain (.load j ticket daemon queries :: rest) : StateM Rehearsal Panel)
      (p'.drain ((.load j ticket daemon queries :: rest).filter (·.index == ds.idxOf d))) := by
  by_cases hj : j = ds.idxOf d
  · -- The calls are made on both panels, and the script answers them alike.
    obtain rfl : d = daemon := (hfits.mpr hj).symm
    rw [List.filter_cons_of_pos (by simpa [Work.index] using hj), drain, drain]
    refine (couples_fetch d queries).bind fun report _ heq => ?_
    subst heq
    refine (couples_noteAll _ _ _).bind fun _ _ _ => ?_
    exact hrest (h.apply_own (.loaded j ticket report) hj).1
  · -- The calls are made on the first panel only, to another daemon.
    rw [List.filter_cons_of_neg (by simpa [Work.index] using hj), drain]
    refine .bind_left (spares_fetch (mt hfits.mp hj) queries) fun report => ?_
    refine .bind_left (spares_noteAll d _) fun _ => ?_
    exact hrest (h.apply_other (.loaded j ticket report) hj).1

/-- A mutation is carried out and then the rest with the load that follows the mutation, or the rest
    alone where the mutation is for another tab. -/
theorem couples_change {p p' : Panel} (h : p.AgreeAt ds d p') {j : Nat} {mutation : Tab.Mutation}
    {rest : List Work} (hfits : mutation.daemon = d ↔ j = ds.idxOf d)
    (hrest : ∀ reply {q q' : Panel}, q.AgreeAt ds d q' →
      Couples d (AgreeAt ds d)
        (q.drain (rest ++ (p.apply (.changed j reply)).work) : StateM Rehearsal Panel)
        (q'.drain ((rest ++ (p.apply (.changed j reply)).work).filter
          (·.index == ds.idxOf d)))) :
    Couples d (AgreeAt ds d) (p.drain (.change j mutation :: rest) : StateM Rehearsal Panel)
      (p'.drain ((.change j mutation :: rest).filter (·.index == ds.idxOf d))) := by
  by_cases hj : j = ds.idxOf d
  · rw [List.filter_cons_of_pos (by simpa [Work.index] using hj), drain, drain]
    refine .bind (hfits.mpr hj ▸ couples_perform mutation) fun reply _ _ => ?_
    obtain ⟨hpanels, hwork⟩ := h.apply_own (.changed j reply) hj
    have hcoupled := hrest reply hpanels
    rw [List.filter_append, hwork] at hcoupled
    exact hcoupled
  · rw [List.filter_cons_of_neg (by simpa [Work.index] using hj), drain]
    refine .bind_left (spares_perform (mt hfits.mp hj)) fun reply => ?_
    obtain ⟨hpanels, hwork⟩ := h.apply_other (.changed j reply) hj
    have hcoupled := hrest reply hpanels
    rw [List.filter_append, hwork, List.append_nil] at hcoupled
    exact hcoupled

/-- To carry out work is coupled with carrying out the part of it that is for the tab on a daemon,
    and what is noted on the way makes no difference. -/
theorem couples_drain {p p' : Panel} (h : p.AgreeAt ds d p') (work : List Work)
    (hw : ∀ w ∈ work, w.Fits ds d) :
    Couples d (AgreeAt ds d) (p.drain work : StateM Rehearsal Panel)
      (p'.drain (work.filter (·.index == ds.idxOf d))) := by
  match work with
  | [] =>
    simp only [List.filter_nil, drain]
    exact .pure h
  | .load j ticket daemon queries :: rest =>
    have hfits : daemon = d ↔ j = ds.idxOf d := hw _ List.mem_cons_self
    have hrest : ∀ w ∈ rest, w.Fits ds d := fun w hmem => hw w (List.mem_cons_of_mem _ hmem)
    exact couples_load h hfits fun hq => couples_drain hq rest hrest
  | .change j mutation :: rest =>
    have hfits : mutation.daemon = d ↔ j = ds.idxOf d := hw _ List.mem_cons_self
    -- With the load that follows the mutation, all work still fits.
    have hmore (reply : Reply) :
        ∀ w ∈ rest ++ (p.apply (.changed j reply)).work, w.Fits ds d := by
      intro w hmem
      rcases List.mem_append.mp hmem with hmem | hmem
      · exact hw w (List.mem_cons_of_mem _ hmem)
      · exact h.fits (p.beginLoad_moves j) w hmem
    exact couples_change h hfits fun reply _ _ hq => couples_drain hq _ (hmore reply)
termination_by totalWeight work
decreasing_by
  · simp [Work.weight]
  · -- A mutation weighs more than the load that follows it.
    have hle := totalWeight_applyChange_le p j
    simp only [totalWeight_append, totalWeight_cons, Work.weight, apply]
    omega

/-- Work is carried out on two panels, and it is the same for the tab on a daemon. -/
theorem SameAt.couples_drain {p p' : Panel} {work work' : List Work}
    (h : SameAt ds d p work p' work') (hw : ∀ w ∈ work, w.Fits ds d)
    (hw' : ∀ w ∈ work', w.Fits ds d) :
    Couples d (AgreeAt ds d) (p.drain work : StateM Rehearsal Panel) (p'.drain work') := by
  -- Both are coupled with carrying out what is for the tab, on the first panel.
  have hleft := Panel.couples_drain h.panels.refl_left work hw
  have hright := Panel.couples_drain h.panels.symm work' hw'
  rw [← h.work] at hright
  exact hleft.meet hright fun _ _ _ hac hbc => hac.trans hbc.symm

/-- A demand is met. -/
theorem couples_serve {p p' : Panel} (h : p.AgreeAt ds d p') (demand : Demand) :
    Couples d (AgreeAt ds d) (p.serve demand : StateM Rehearsal Panel) (p'.serve demand) := by
  cases demand with
  | loadAll =>
    exact h.beginAll.couples_drain (h.fits p.beginAll_moves) (h.symm.fits p'.beginAll_moves)
  | command c =>
    have hdrain := (h.dispatch c).couples_drain (h.fits (p.dispatch_moves c))
      (h.symm.fits (p'.dispatch_moves c))
    have hhandle : Couples d (fun x y => x.2.AgreeAt ds d y.2)
        (p.handle c : StateM Rehearsal (Bool × Panel)) (p'.handle c) := by
      refine (couples_noteAll d _ _).bind fun _ _ _ => ?_
      exact hdrain.bind fun _ _ hq => .pure hq
    exact hhandle.map fun _ _ hq => hq

/-- Demands are met one after the other. -/
theorem couples_serveAll {p p' : Panel} (h : p.AgreeAt ds d p') (demands : List Demand) :
    Couples d (AgreeAt ds d) (p.serveAll demands : StateM Rehearsal Panel)
      (p'.serveAll demands) := by
  induction demands generalizing p p' with
  | nil => exact .pure h
  | cons demand demands ih => exact (couples_serve h demand).bind fun _ _ hq => ih hq

/-! ### From the settings on -/

/-- A new panel agrees with itself. -/
theorem agreeAt_ofSettings {s : Settings} (hs : s.order.Nodup) (d : Daemon) :
    (ofSettings s).AgreeAt s.shown d (ofSettings s) :=
  ⟨hs.filter _, daemons_ofSettings s, daemons_ofSettings s, rfl⟩

/-- The tab that goes by the tab name of the daemon stands at the daemon's place. -/
theorem AgreeAt.tab?_eq (h : p.AgreeAt ds d p') :
    p.tab? (Tab.Identity.ofDaemon d).id = p.tabs[ds.idxOf d]? := by
  refine Option.ext fun t => ?_
  rw [tab?_eq_some (nodup_ids h.nodup), Tab.id_eq_iff]
  constructor
  · rintro ⟨ht, hdaemon⟩
    obtain ⟨j, hj⟩ := List.mem_iff_getElem?.mp ht
    rw [← (h.place hj).mp hdaemon, hj]
  · intro hi
    exact ⟨List.mem_of_getElem? hi, (h.place hi).mpr rfl⟩

/-- A panel has a tab on a daemon exactly if the daemon is among its own. -/
theorem AgreeAt.isSome_tab (h : p.AgreeAt ds d p') :
    (p.tab? (Tab.Identity.ofDaemon d).id).isSome = true ↔ d ∈ ds := by
  rw [h.tab?_eq, isSome_getElem?, ← List.idxOf_lt_length_iff, ← h.daemons, List.length_map]

end Panel

/-- Demands that are met one after the other from the settings on, with scripts that agree on one
    daemon, whatever they say of the others. Both runs end with the same tab on that daemon, which
    looks the same, and have made the same calls to the daemon in the same order. -/
theorem tabs_are_isolated {s : Settings} (hs : s.order.Nodup) (clock : Time.Instant) {d : Daemon}
    {script script' : Script} (h : script.AgreeOn d script') (demands : List Panel.Demand) :
    let run := fun script =>
      ((Panel.ofSettings s).serveAll demands : StateM Rehearsal Panel).run { script, clock }
    let tab := fun script => (run script).1.tab? (Tab.Identity.ofDaemon d).id
    let now := fun script => (run script).2.clock
    ((tab script).isSome = true ↔ d ∈ s.shown) ∧
    tab script = tab script' ∧
    (tab script).map Tab.badge = (tab script').map Tab.badge ∧
    (tab script).map (·.content (now script)) = (tab script').map (·.content (now script')) ∧
    (run script).2.script.callsTo d = (run script').2.script.callsTo d := by
  intro run tab now
  -- Panels and rehearsals agree in what concerns the daemon, from the start and at every demand.
  have hstart : (Rehearsal.mk script clock []).AgreeOn d ⟨script', clock, []⟩ := ⟨h, rfl⟩
  obtain ⟨hpanels, hrun⟩ :=
    Panel.couples_serveAll (Panel.agreeAt_ofSettings hs d) demands _ _ hstart
  have htab : tab script = tab script' :=
    hpanels.tab?_eq.trans (hpanels.tab.trans hpanels.symm.tab?_eq.symm)
  have hnow : now script = now script' := hrun.clock
  refine ⟨hpanels.isSome_tab, htab, ?_, ?_, hrun.script.calls⟩
  · rw [htab]
  · rw [htab, hnow]

/-- The jobs come and go alike when another daemon fails, and when a third one answers at last. -/
theorem tabs_are_isolated_failing :
    let s := Settings.default
    let clock : Time.Instant := { seconds := 1700000000 }
    let jobs : Script.Key := ⟨.cron, "getJobs"⟩
    let script := ({} : Script).respond jobs (.ok (.array []))
    let script' := (script.enqueue ⟨.stats, "getSummary"⟩ (.failure "down")).respond
      ⟨.tools, "listModules"⟩ (.ok (.array []))
    let demands : List Panel.Demand :=
      [ .loadAll
      , .command
          { name := "toggleCronJob"
            arguments := [("enabled", .bool true), ("name", .string "backup")] } ]
    let run := fun script =>
      ((Panel.ofSettings s).serveAll demands : StateM Rehearsal Panel).run { script, clock }
    (s.order.Nodup ∧ script.AgreeOn .cron script') ∧
    ((run script').1.tab? "cron").isSome = true ∧
    (run script).1.tab? "cron" = (run script').1.tab? "cron" ∧
    ((run script').2.script.callsTo .cron).map (·.method) =
      ["getJobs", "getHistory", "setJobEnabled", "getJobs", "getHistory"] := by
  intro s clock jobs script script' demands run
  have hs : s.order.Nodup := by decide
  have h : script.AgreeOn .cron script' := by
    refine .symm (.trans (Script.agreeOn_respond_other (by decide) _ _) ?_)
    exact Script.agreeOn_enqueue_other (by decide) _ _
  obtain ⟨hsome, htab, -, -, hcalls⟩ := tabs_are_isolated hs clock h demands
  refine ⟨⟨hs, h⟩, ?_, htab, ?_⟩
  · exact (congrArg Option.isSome htab).symm.trans (hsome.mpr (by decide))
  · have hmethods : ((run script).2.script.callsTo .cron).map (·.method) =
        ["getJobs", "getHistory", "setJobEnabled", "getJobs", "getHistory"] := by
      decide +kernel
    rw [← hmethods]
    exact congrArg (List.map Script.Call.method) hcalls.symm

end Dashboard
