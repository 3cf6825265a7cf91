import Dashboard.Panel.Course
import Dashboard.Proofs.TabSteps
/-!
# What the steps of the panel do

Every step of the panel is seen from the place of each tab.

* `Panel.Turn` — what a command may do to the tab at one place, with the work that is made for it.
* `Panel.Moves` — a step gives every tab one turn; the bar changes only where that is noted.
* `Panel.dispatch_moves` — commands are such steps, and so is the completion of a mutation by
  `Panel.beginLoad_moves`.
* `Panel.applyReport_current`, `Panel.applyReport_stale` — the end of a load.
* `Panel.apply_panel`, `Panel.work_apply` — how far a completion reaches.
* `Panel.Moves.daemons`, `Panel.daemons_apply`, `Session.daemons_step` — tabs stay on their daemons.
* `Panel.apply_at` — what a completion does depends on nothing but its tab.
-/

namespace Dashboard.Panel

/-- What a command may do to the tab at a place, and the work that is made for it. `signals` are the
    requests to be drawn again that wait after it. -/
inductive Turn (i : Nat) (signals : List String) (t : Tab) : Tab → List Work → Prop where
  /-- Nothing. -/
  | rest : Turn i signals t t []
  /-- A mutation is asked for. -/
  | asks {m : Tab.Mutation} (hm : m.daemon = t.daemon) : Turn i signals t t [.change i m]
  /-- The tab asks to be drawn again. -/
  | redraw {t' : Tab} (ha : t.Alike t') (hs : t.id ∈ signals) : Turn i signals t t' []
  /-- A load begins. -/
  | reload {t' : Tab} (ha : t.Alike t') :
      Turn i signals t t'.begin.2 [.load i t'.begin.1 t'.daemon t'.queries]

/-- What a step of the panel does, with the work that it makes. -/
structure Moves (p p' : Panel) (work : List Work) : Prop where
  length : p'.tabs.length = p.tabs.length
  turn : ∀ i t, p.tabs[i]? = some t → ∃ t', p'.tabs[i]? = some t' ∧
    Turn i p'.signals t t' (work.filter (·.index == i))
  signals : p.signals ⊆ p'.signals
  active : p'.active = p.active ∨ p'.barChanged = true
  barChanged : p.barChanged = true → p'.barChanged = true
  inRange : ∀ w ∈ work, w.index < p.tabs.length

/-! ### One tab has its turn -/

/-- A step that does nothing. -/
theorem Moves.refl (p : Panel) : p.Moves p [] where
  length := rfl
  turn _ t ht := ⟨t, ht, .rest⟩
  signals := List.Subset.refl _
  active := .inl rfl
  barChanged := id
  inRange := by simp

/-- A tab that is put where it stands changes nothing. -/
theorem setTab_self {p : Panel} {i : Nat} {t : Tab} (hi : p.tabs[i]? = some t) :
    p.setTab i t = p := by
  obtain ⟨hlt, rfl⟩ := List.getElem?_eq_some_iff.mp hi
  simp [setTab]

/-- A tab that is put into a place stands there. -/
theorem getElem?_setTab_self {p : Panel} {i : Nat} {t : Tab} (hi : p.tabs[i]? = some t)
    (t' : Tab) : (p.setTab i t').tabs[i]? = some t' :=
  List.getElem?_set_self (List.getElem?_eq_some_iff.mp hi).1

/-- A step that concerns one place. -/
theorem Moves.at {p p' : Panel} {i : Nat} {t t' : Tab} {work : List Work}
    (hi : p.tabs[i]? = some t) (htabs : p'.tabs = p.tabs.set i t')
    (hsignals : p.signals ⊆ p'.signals) (hactive : p'.active = p.active)
    (hbar : p'.barChanged = p.barChanged) (hwork : ∀ w ∈ work, w.index = i)
    (hturn : Turn i p'.signals t t' work) : p.Moves p' work where
  length := by simp [htabs]
  turn j u hu := by
    have hlt : i < p.tabs.length := (List.getElem?_eq_some_iff.mp hi).1
    by_cases hj : j = i
    · -- All of the work is for the one tab that has its turn.
      subst hj
      have hall : work.filter (·.index == j) = work :=
        List.filter_eq_self.mpr fun w hw => by simp [hwork w hw]
      rw [hall]
      obtain rfl : t = u := Option.some.inj (hi.symm.trans hu)
      exact ⟨t', by rw [htabs, List.getElem?_set_self hlt], hturn⟩
    · have hnone : work.filter (·.index == j) = [] :=
        List.filter_eq_nil_iff.mpr fun w hw => by simp [hwork w hw, Ne.symm hj]
      rw [hnone]
      exact ⟨u, by rw [htabs, List.getElem?_set_ne (Ne.symm hj), hu], .rest⟩
  signals := hsignals
  active := .inl hactive
  barChanged := fun h => by rw [hbar, h]
  inRange := fun w hw => by
    rw [hwork w hw]
    exact (List.getElem?_eq_some_iff.mp hi).1

theorem beginLoad_of_some {p : Panel} {i : Nat} {t : Tab} (hi : p.tabs[i]? = some t) :
    p.beginLoad i = (p.setTab i t.begin.2, [.load i t.begin.1 t.daemon t.queries]) := by
  simp [beginLoad, hi]

theorem beginLoad_of_none {p : Panel} {i : Nat} (hi : p.tabs[i]? = none) :
    p.beginLoad i = (p, []) := by
  simp [beginLoad, hi]

/-- A load of the tab at one place begins. -/
theorem beginLoad_moves (p : Panel) (i : Nat) : p.Moves (p.beginLoad i).1 (p.beginLoad i).2 := by
  cases hi : p.tabs[i]? with
  | none =>
    rw [beginLoad_of_none hi]
    exact .refl p
  | some t =>
    rw [beginLoad_of_some hi]
    exact .at hi rfl (List.Subset.refl _) rfl rfl (by simp [Work.index]) (.reload (.refl t))

/-! ### All tabs have their turn -/

/-- Loads that begin one after the other; `before` are the tabs whose loads have begun already. -/
theorem beginLoads_range' (before rest : List Tab) (p : Panel) (hp : p.tabs = before ++ rest) :
    p.beginLoads (List.range' before.length rest.length) =
      ({ p with tabs := before ++ rest.map (·.begin.2) },
        rest.mapIdx fun i t => .load (before.length + i) t.begin.1 t.daemon t.queries) := by
  induction rest generalizing before p with
  | nil => simp [beginLoads, ← hp]
  | cons t rest ih =>
    -- The load of the first tab begins; with it the tab is one of those that come before.
    have hi : p.tabs[before.length]? = some t := by simp [hp]
    have hset : (p.setTab before.length t.begin.2).tabs = (before ++ [t.begin.2]) ++ rest := by
      simp [setTab, hp]
    have ih := ih (before ++ [t.begin.2]) _ hset
    rw [List.length_append, List.length_singleton] at ih
    rw [List.length_cons, List.range'_succ, beginLoads, beginLoad_of_some hi]
    simp only [ih, List.map_cons, List.mapIdx_cons, List.append_assoc, List.singleton_append]
    simp [setTab, Nat.add_assoc, Nat.add_comm 1]

/-- All loads begin at once, each as it would alone. -/
theorem beginAll_eq (p : Panel) :
    p.beginAll =
      ({ p with tabs := p.tabs.map (·.begin.2) },
        p.tabs.mapIdx fun i t => .load i t.begin.1 t.daemon t.queries) := by
  have h := beginLoads_range' [] p.tabs p rfl
  simpa [beginAll, List.range_eq_range'] using h

/-- Of work that is numbered by the tabs, one piece is for each tab. -/
theorem filter_mapIdx_index (f : Nat → Tab → Work) (k : Nat) (hf : ∀ j t, (f j t).index = k + j)
    {tabs : List Tab} {i : Nat} {t : Tab} (hi : tabs[i]? = some t) :
    (tabs.mapIdx f).filter (·.index == k + i) = [f i t] := by
  induction tabs generalizing f k i with
  | nil => simp at hi
  | cons u tabs ih =>
    rw [List.mapIdx_cons]
    cases i with
    | zero =>
      obtain rfl : u = t := by simpa using hi
      -- The work for the other tabs has later places.
      have hnone : (tabs.mapIdx fun j => f (j + 1)).filter (·.index == k) = [] := by
        refine List.filter_eq_nil_iff.mpr fun w hw => ?_
        obtain ⟨j, _, rfl⟩ := List.mem_mapIdx.mp hw
        simp [hf]
      simp [hf, hnone]
    | succ i =>
      have ih := ih (fun j => f (j + 1)) (k + 1) (fun j v => by rw [hf]; omega)
        (by simpa using hi)
      rw [show k + 1 + i = k + (i + 1) by omega] at ih
      simp [hf, ih]

/-- The work of loading all tabs, as far as it concerns one of them. -/
theorem filter_loads_at {p : Panel} {i : Nat} {t : Tab} (hi : p.tabs[i]? = some t) :
    p.beginAll.2.filter (·.index == i) = [.load i t.begin.1 t.daemon t.queries] := by
  have h := filter_mapIdx_index (fun j u => .load j u.begin.1 u.daemon u.queries) 0
    (fun j u => by simp [Work.index]) hi
  simpa [beginAll_eq] using h

/-- To load everything gives each tab its turn. -/
theorem beginAll_moves (p : Panel) : p.Moves p.beginAll.1 p.beginAll.2 where
  length := by simp [beginAll_eq]
  turn i t hi := by
    rw [filter_loads_at hi]
    refine ⟨t.begin.2, by simp [beginAll_eq, hi], ?_⟩
    exact .reload (.refl t)
  signals := by simp [beginAll_eq]
  active := .inl (by simp [beginAll_eq])
  barChanged h := by simpa [beginAll_eq] using h
  inRange w hw := by
    rw [beginAll_eq] at hw
    obtain ⟨i, hlt, rfl⟩ := List.mem_mapIdx.mp hw
    exact hlt

/-! ### Commands -/

/-- To activate a tab gives none of them a turn. -/
theorem activate_moves (p : Panel) (id : String) : p.Moves (p.activate id).2 [] := by
  unfold activate
  split
  · exact .refl p
  · split
    · exact .refl p
    · exact { Moves.refl p with active := .inr rfl, barChanged := fun _ => rfl }

/-- To activate a tab leaves the tabs as they are. -/
@[simp] theorem tabs_activate (p : Panel) (id : String) : (p.activate id).2.tabs = p.tabs := by
  unfold activate
  split
  · rfl
  · split <;> rfl

/-- The command that makes a tab active does so or does nothing. -/
theorem select_cases (p : Panel) (c : Command) :
    (∃ id, p.select c = { panel := (p.activate id).2, handled := true }) ∨
      ∃ notices, p.select c = p.ignore notices := by
  unfold select
  dsimp only
  split
  · rename_i q h
    obtain ⟨id, -, h⟩ := Option.map_eq_some_iff.mp h
    exact .inl ⟨id, by rw [h]⟩
  · exact .inr ⟨_, rfl⟩

/-- To select a tab makes no work, and moves no tab. -/
theorem select_moves (p : Panel) (c : Command) : p.Moves (p.select c).panel (p.select c).work := by
  rcases p.select_cases c with ⟨id, h⟩ | ⟨notices, h⟩
  · rw [h]
    exact p.activate_moves id
  · rw [h]
    exact .refl p

/-- To select a tab leaves the tabs as they are. -/
theorem select_tabs (p : Panel) (c : Command) :
    (p.select c).panel.tabs = p.tabs ∧ (p.select c).work = [] := by
  rcases p.select_cases c with ⟨id, h⟩ | ⟨notices, h⟩ <;> simp [h, ignore]

/-- What a command does at one place. -/
theorem address_moves (p : Panel) (i : Nat) (c : Command) :
    p.Moves (p.address i c).panel (p.address i c).work := by
  cases hi : p.tabs[i]? with
  | none =>
    simp only [address, hi]
    exact .refl p
  | some t =>
    -- What the command does is known by what it may come to, whatever the tab.
    have hr := t.reacts c
    simp only [address, hi]
    generalize t.react c = answer at hr ⊢
    cases hr with
    | @asks r h =>
      cases r with
      | ignored => simpa [route, ignore, setTab_self hi] using Moves.refl p
      | change m =>
        simp only [route, setTab_self hi]
        exact .at hi (by simpa [setTab] using congrArg tabs (setTab_self hi).symm)
          (List.Subset.refl _) rfl rfl (by simp [Work.index]) (.asks h)
      | redraw => exact h.elim
      | reload => exact h.elim
    | @redraw t' h =>
      simp only [route]
      exact .at hi rfl (by simp [signal, setTab]) rfl rfl (by simp)
        (.redraw h (by simp [signal, h.id_eq]))
    | @reload t' h =>
      simp only [route, beginLoad_of_some (getElem?_setTab_self hi t')]
      exact .at hi (by simp [setTab]) (List.Subset.refl _) rfl rfl (by simp [Work.index])
        (.reload h)

/-- A command that a tab does not handle changes nothing. -/
theorem address_of_not_handled {p : Panel} {i : Nat} {c : Command}
    (h : (p.address i c).handled = false) : (p.address i c).panel = p := by
  cases hi : p.tabs[i]? with
  | none => simp [address, hi, ignore]
  | some t =>
    have hr := t.reacts c
    simp only [address, hi] at h ⊢
    generalize t.react c = answer at hr h ⊢
    -- A command that is not handled is one that the tab refuses, and then the tab is put back as it
    -- was.
    cases hr with
    | @asks r =>
      cases r with
      | ignored => simp [route, ignore, setTab_self hi]
      | change => simp [route] at h
      | redraw => simp [route] at h
      | reload => simp [route] at h
    | redraw => simp [route] at h
    | reload => simp [route] at h

/-- A command gives at most one tab its turn, whichever tabs it is offered to. -/
theorem offer_moves (p : Panel) (c : Command) (places : List Nat) :
    p.Moves (p.offer c places).panel (p.offer c places).work := by
  induction places with
  | nil => exact .refl p
  | cons i places ih =>
    unfold offer
    dsimp only
    split
    · exact p.address_moves i c
    · rename_i h
      rw [address_of_not_handled (by simpa using h)]
      exact ih

/-- What a command does. -/
theorem dispatch_moves (p : Panel) (c : Command) :
    p.Moves (p.dispatch c).panel (p.dispatch c).work := by
  unfold dispatch
  split
  · exact p.select_moves c
  · split
    · exact p.beginAll_moves
    · split
      · exact p.offer_moves c _
      · split
        · exact p.address_moves _ c
        · exact .refl p

/-! ### Completions -/

theorem applyReport_current {p : Panel} {i : Nat} {t : Tab} (hi : p.tabs[i]? = some t)
    (report : Tab.Report) :
    (p.applyReport i t.status.issued report).panel =
      (p.setTab i (t.complete t.status.issued report).2).signal t.id ∧
    (p.applyReport i t.status.issued report).work = [] := by
  simp [applyReport, hi, t.complete_current report]

theorem applyReport_stale {p : Panel} {i ticket : Nat} {t : Tab} (hi : p.tabs[i]? = some t)
    (ht : ticket ≠ t.status.issued) (report : Tab.Report) :
    (p.applyReport i ticket report).panel = p ∧ (p.applyReport i ticket report).work = [] := by
  simp [applyReport, hi, t.complete_stale ht report, setTab_self hi]

/-- The end of a load makes no work. -/
@[simp] theorem work_applyReport (p : Panel) (i ticket : Nat) (report : Tab.Report) :
    (p.applyReport i ticket report).work = [] := by
  cases hi : p.tabs[i]? with
  | none => simp [applyReport, hi]
  | some t =>
    by_cases ht : ticket = t.status.issued
    · subst ht
      exact (applyReport_current hi report).2
    · exact (applyReport_stale hi ht report).2

/-- A completion changes one tab at most, and beside it only what asks to be drawn again. -/
theorem apply_panel (p : Panel) (done : Completion) :
    (p.apply done).panel = p ∨ ∃ t ids, (p.apply done).panel =
      { p.setTab done.index t with signals := p.signals ++ ids } := by
  cases done with
  | changed i reply =>
    cases hi : p.tabs[i]? with
    | none => exact .inl (by simp [apply, applyChange, beginLoad_of_none hi])
    | some t =>
      refine .inr ⟨t.begin.2, [], ?_⟩
      simp [apply, applyChange, beginLoad_of_some hi, setTab, Completion.index]
  | loaded i ticket report =>
    cases hi : p.tabs[i]? with
    | none => exact .inl (by simp [apply, applyReport, hi])
    | some t =>
      -- A report that comes too late leaves the panel as it is.
      by_cases ht : ticket = t.status.issued
      · subst ht
        refine .inr ⟨(t.complete t.status.issued report).2, [t.id], ?_⟩
        rw [apply, (applyReport_current hi report).1]
        rfl
      · exact .inl (applyReport_stale hi ht report).1

/-- All work that a completion makes is loads of its tab. -/
theorem work_apply {p : Panel} {done : Completion} {w : Work} (hw : w ∈ (p.apply done).work) :
    w.index = done.index ∧ w.isLoad = true := by
  cases done with
  | loaded i ticket report => simp [apply] at hw
  | changed i reply =>
    cases hi : p.tabs[i]? with
    | none => simp [apply, applyChange, beginLoad_of_none hi] at hw
    | some t =>
      simp only [apply, applyChange, beginLoad_of_some hi, List.mem_singleton] at hw
      rw [hw]
      exact ⟨rfl, rfl⟩

/-- No tab comes or goes when work is done. -/
@[simp] theorem length_apply (p : Panel) (done : Completion) :
    (p.apply done).panel.tabs.length = p.tabs.length := by
  rcases p.apply_panel done with h | ⟨t, ids, h⟩
  · rw [h]
  · simp [h, setTab]

/-- The active tab stays active when work is done. -/
@[simp] theorem active_apply (p : Panel) (done : Completion) :
    (p.apply done).panel.active = p.active := by
  rcases p.apply_panel done with h | ⟨t, ids, h⟩
  · rw [h]
  · rw [h]
    rfl

/-- What comes of work for one tab does nothing to another. -/
theorem apply_other {p : Panel} {done : Completion} {i : Nat} (hd : done.index ≠ i) :
    (p.apply done).panel.tabs[i]? = p.tabs[i]? ∧
      (p.apply done).work.filter (·.index == i) = [] := by
  refine ⟨?_, List.filter_eq_nil_iff.mpr fun w hw => by simp [(work_apply hw).1, hd]⟩
  rcases p.apply_panel done with h | ⟨t, ids, h⟩
  · rw [h]
  · simp [h, setTab, hd]

/-! ### Tabs stay on their daemons -/

variable {p p' q : Panel} {i j : Nat} {t t' : Tab} {work : List Work}

/-- A tab stays on its daemon in its turn. -/
theorem Turn.daemon_eq {signals : List String} (h : Turn i signals t t' work) :
    t'.daemon = t.daemon := by
  cases h with
  | rest => rfl
  | asks => rfl
  | redraw ha => exact ha.daemon_eq
  | reload ha => simp [ha.daemon_eq]

/-- The work that is made for a tab asks its daemon. -/
theorem Turn.work_daemon {signals : List String} (h : Turn i signals t t' work) {w : Work}
    (hw : w ∈ work) : w.daemon = t.daemon := by
  cases h with
  | rest => cases hw
  | asks hm =>
    obtain rfl := List.mem_singleton.mp hw
    exact hm
  | redraw => cases hw
  | reload ha =>
    obtain rfl := List.mem_singleton.mp hw
    exact ha.daemon_eq

/-- Tabs stay on their daemons in a step. -/
theorem Moves.daemons (h : p.Moves q work) :
    q.tabs.map Tab.daemon = p.tabs.map Tab.daemon := by
  refine List.ext_getElem? fun j => ?_
  cases hj : p.tabs[j]? with
  | none =>
    have hq : q.tabs[j]? = none := by
      simpa [List.getElem?_eq_none_iff, h.length] using hj
    simp [hj, hq]
  | some t =>
    obtain ⟨t', ht', hturn⟩ := h.turn j t hj
    simp [hj, ht', hturn.daemon_eq]

/-- Where there is no tab, there is none after a step, and no work is made. -/
theorem Moves.none_at (h : p.Moves q work) (hi : p.tabs[i]? = none) :
    q.tabs[i]? = none ∧ work.filter (·.index == i) = [] := by
  have hlen : p.tabs.length ≤ i := List.getElem?_eq_none_iff.mp hi
  refine ⟨List.getElem?_eq_none_iff.mpr (h.length ▸ hlen), ?_⟩
  refine List.filter_eq_nil_iff.mpr fun w hw => ?_
  have hlt := h.inRange w hw
  simp only [beq_iff_eq]
  omega

/-- A tab that is replaced by one on the same daemon leaves the daemons as they are. -/
theorem map_daemon_setTab (hj : p.tabs[j]? = some t) (ht : t'.daemon = t.daemon) :
    (p.setTab j t').tabs.map Tab.daemon = p.tabs.map Tab.daemon := by
  rw [setTab, List.map_set, ht, ← List.map_set]
  exact congrArg (List.map Tab.daemon) (congrArg tabs (setTab_self hj))

/-- Tabs stay on their daemons when work is done. -/
theorem daemons_apply (p : Panel) (done : Completion) :
    (p.apply done).panel.tabs.map Tab.daemon = p.tabs.map Tab.daemon := by
  cases done with
  | changed j reply => exact (p.beginLoad_moves j).daemons
  | loaded j ticket report =>
    cases hj : p.tabs[j]? with
    | none => simp [apply, applyReport, hj]
    | some t =>
      by_cases ht : ticket = t.status.issued
      · subst ht
        rw [apply, (applyReport_current hj report).1]
        exact map_daemon_setTab hj (t.daemon_complete _ report)
      · rw [apply, (applyReport_stale hj ht report).1]

/-! ### What completions depend on -/

/-- What a load that begins does depends on nothing but its tab. -/
theorem beginLoad_at (h : p.tabs[j]? = p'.tabs[j]?) :
    (p.beginLoad j).1.tabs[j]? = (p'.beginLoad j).1.tabs[j]? ∧
      (p.beginLoad j).2 = (p'.beginLoad j).2 := by
  cases hj : p.tabs[j]? with
  | none =>
    rw [beginLoad_of_none hj, beginLoad_of_none (h ▸ hj)]
    exact ⟨h, rfl⟩
  | some t =>
    have hj' : p'.tabs[j]? = some t := h ▸ hj
    rw [beginLoad_of_some hj, beginLoad_of_some hj']
    exact ⟨(getElem?_setTab_self hj _).trans (getElem?_setTab_self hj' _).symm, rfl⟩

/-- What a report does depends on nothing but its tab. -/
theorem applyReport_at (h : p.tabs[j]? = p'.tabs[j]?) (ticket : Nat) (report : Tab.Report) :
    (p.applyReport j ticket report).panel.tabs[j]? =
      (p'.applyReport j ticket report).panel.tabs[j]? := by
  cases hj : p.tabs[j]? with
  | none => simp [applyReport, hj, h ▸ hj]
  | some t =>
    have hj' : p'.tabs[j]? = some t := h ▸ hj
    by_cases ht : ticket = t.status.issued
    · subst ht
      rw [(applyReport_current hj report).1, (applyReport_current hj' report).1]
      exact (getElem?_setTab_self hj _).trans (getElem?_setTab_self hj' _).symm
    · rw [(applyReport_stale hj ht report).1, (applyReport_stale hj' ht report).1, h]

/-- What comes of work depends on nothing but the tab that the work was for. -/
theorem apply_at {done : Completion} (h : p.tabs[done.index]? = p'.tabs[done.index]?) :
    (p.apply done).panel.tabs[done.index]? = (p'.apply done).panel.tabs[done.index]? ∧
      (p.apply done).work = (p'.apply done).work := by
  cases done with
  | loaded j ticket report =>
    refine ⟨applyReport_at h ticket report, ?_⟩
    rw [apply, apply, work_applyReport, work_applyReport]
  | changed j reply => exact beginLoad_at h

end Dashboard.Panel

namespace Dashboard

/-- A move of a session leaves the tabs on their daemons. -/
theorem Session.daemons_step (s : Session) (m : Session.Move) :
    (s.step m).panel.tabs.map Tab.daemon = s.panel.tabs.map Tab.daemon := by
  cases m with
  | receive c => exact (s.panel.dispatch_moves c).daemons
  | settle place done => exact s.panel.daemons_apply done
  | close => rfl

end Dashboard
