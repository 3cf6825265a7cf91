import Dashboard.Proofs.PanelSteps
import Dashboard.Tab.Vocabulary
import Mathlib.Data.List.Nodup
/-!
# To which tab a command goes

A command that names a tab is handed to it, and one that names none is handed to the tabs in turn.
If no two tabs are on one daemon, both come to handing it to one tab at most.

* `Tab.after`, `Tab.workAt`, `Tab.requests` — what a command comes to for one tab.
* `Panel.address_eq` — what it is to hand a command to the tab at one place.
* `Panel.offer_of_knows`, `Panel.offer_of_unknown` — handing a command to the tabs in turn is
  handing it to the one that knows it, or to none.
* `Panel.dispatch_to`, `Panel.dispatch_of_knows`, `Panel.dispatch_of_unknown` — where commands go
  that are not the panel's own.
-/

namespace Dashboard

/-! ### What a command comes to for one tab -/

namespace Tab

/-- The tab after a command. A load that the command asks for has begun. -/
def after (t : Tab) (c : Command) : Tab :=
  match t.react c with
  | (t', .reload) => t'.begin.2
  | (t', _) => t'

/-- The work that a command makes for the tab at a place. -/
def workAt (t : Tab) (c : Command) (i : Nat) : List Panel.Work :=
  match t.react c with
  | (t', .reload) => [.load i t'.begin.1 t'.daemon t'.queries]
  | (_, .change m) => [.change i m]
  | _ => []

/-- The requests to be drawn again that a command leads to. -/
def requests (t : Tab) (c : Command) : List String :=
  match (t.react c).2 with
  | .redraw => [t.id]
  | _ => []

variable {t : Tab} {c : Command}

theorem after_of_not_knows (h : ¬ t.Knows c) : t.after c = t := by
  simp [after, react_of_not_knows h]

@[simp] theorem daemon_after (t : Tab) (c : Command) : (t.after c).daemon = t.daemon := by
  have hr := t.reacts c
  unfold after
  generalize t.react c = answer at hr ⊢
  cases hr with
  | @asks r h => cases r <;> first | rfl | exact h.elim
  | redraw h => exact h.daemon_eq
  | reload h => simp [h.daemon_eq]

@[simp] theorem id_after (t : Tab) (c : Command) : (t.after c).id = t.id := by
  simp [id, identity]

/-- The work of a command is for the place and for the daemon of the tab. -/
theorem mem_workAt {i : Nat} {w : Panel.Work} (hw : w ∈ t.workAt c i) : w.index = i := by
  unfold workAt at hw
  split at hw <;> simp_all [Panel.Work.index]

/-- The tab on a daemon goes by the daemon's tab name, and no other tab does. -/
theorem id_eq_iff {d : Daemon} : t.id = (Identity.ofDaemon d).id ↔ t.daemon = d := by
  refine ⟨fun h => ?_, fun h => by simp [id, identity, h]⟩
  have hnames : ∀ d ∈ Daemon.all, ∀ d' ∈ Daemon.all,
      (Identity.ofDaemon d).id = (Identity.ofDaemon d').id → d = d' := by
    decide
  exact hnames _ (Daemon.mem_all _) _ (Daemon.mem_all _) h

/-- The tabs on two daemons have two names. -/
theorem id_inj {t' : Tab} : t.id = t'.id ↔ t.daemon = t'.daemon := id_eq_iff

end Tab

namespace Panel

variable {p : Panel} {i j : Nat} {t u : Tab} {c : Command}

/-- What it is to hand a command to the tab at one place. -/
theorem address_eq (hi : p.tabs[i]? = some t) (c : Command) :
    p.address i c =
      { panel :=
          { p with
            tabs := p.tabs.set i (t.after c)
            signals := p.signals ++ t.requests c }
        handled := (t.react c).2.isHandled
        work := t.workAt c i
        notices := (t.react c).2.notices } := by
  have hr := t.reacts c
  simp only [address, hi]
  -- The tab, the work and the requests all hang on one reaction.
  unfold Tab.after Tab.workAt Tab.requests
  generalize t.react c = answer at hr ⊢
  cases hr with
  | @asks r h =>
    cases r with
    | ignored refusal => simp [route, ignore, setTab, Tab.Reaction.isHandled]
    | change m => simp [route, setTab, Tab.Reaction.isHandled, Tab.Reaction.notices]
    | redraw => exact h.elim
    | reload => exact h.elim
  | redraw h =>
    simp [route, signal, setTab, Tab.Reaction.isHandled, Tab.Reaction.notices, h.id_eq]
  | @reload t' h =>
    simp only [route, beginLoad_of_some (getElem?_setTab_self hi t')]
    simp [setTab, Tab.Reaction.isHandled, Tab.Reaction.notices]

/-- To whom a command is addressed is no matter where it is handed to a tab. -/
@[simp] theorem address_with_tab (p : Panel) (i : Nat) (c : Command) (tab : Option String) :
    p.address i { c with tab } = p.address i c := by
  simp only [address, Tab.react_with_tab]

/-- A command that no tab at the place knows changes nothing. -/
theorem address_of_not_knows (h : ∀ t, p.tabs[i]? = some t → ¬ t.Knows c) :
    p.address i c = p.ignore [] := by
  cases hi : p.tabs[i]? with
  | none => simp [address, hi]
  | some t =>
    have hreact := Tab.react_of_not_knows (h t hi)
    simp [address, hi, hreact, route, setTab_self hi, Tab.Reaction.notices]

/-- What is left of handing a command to a tab that does not handle it. -/
theorem address_eq_ignore (h : (p.address i c).handled = false) :
    p.address i c = p.ignore (p.address i c).notices := by
  have hpanel := address_of_not_handled h
  have hwork : (p.address i c).work = [] := by
    cases hi : p.tabs[i]? with
    | none => simp [address, hi, ignore]
    | some t =>
      rw [address_eq hi] at h ⊢
      simp only [Tab.workAt]
      split <;> simp_all [Tab.Reaction.isHandled]
  generalize p.address i c = routed at h hpanel hwork
  obtain ⟨panel, handled, work, notices⟩ := routed
  simp_all [ignore]

/-- A command that is handed to one tab does nothing to another. -/
theorem address_other (p : Panel) (hj : j ≠ i) (c : Command) :
    (p.address j c).panel.tabs[i]? = p.tabs[i]? ∧
      (p.address j c).work.filter (·.index == i) = [] := by
  cases ht : p.tabs[j]? with
  | none => simp [address, ht, ignore]
  | some t =>
    rw [address_eq ht]
    refine ⟨List.getElem?_set_ne hj, List.filter_eq_nil_iff.mpr fun w hw => ?_⟩
    simpa [Tab.mem_workAt hw] using hj

/-! ### Tabs on daemons of their own -/

/-- The panel that settings ask for has a tab on each daemon that is shown. -/
theorem daemons_ofSettings (s : Settings) : (ofSettings s).tabs.map Tab.daemon = s.shown := by
  simp [ofSettings, ofTabs, Function.comp_def]

/-- Tabs on distinct daemons have distinct ids. -/
theorem nodup_ids (hd : (p.tabs.map Tab.daemon).Nodup) : (p.tabs.map Tab.id).Nodup := by
  rw [List.nodup_map_iff_inj_on (List.Nodup.of_map _ hd)]
  intro t ht u hu heq
  exact List.inj_on_of_nodup_map hd ht hu (Tab.id_inj.mp heq)

/-- A daemon has one place. -/
theorem place_unique (hd : (p.tabs.map Tab.daemon).Nodup) (hi : p.tabs[i]? = some t)
    (hj : p.tabs[j]? = some u) (h : t.daemon = u.daemon) : i = j := by
  have hlt : i < (p.tabs.map Tab.daemon).length := by
    simpa using (List.getElem?_eq_some_iff.mp hi).1
  refine (List.getElem?_inj hlt hd).mp ?_
  simp [hi, hj, h]

/-- A tab is found under its name. -/
theorem index?_of_tab (hd : (p.tabs.map Tab.id).Nodup) (hi : p.tabs[i]? = some t) :
    p.index? t.id = some i := by
  obtain ⟨hlt, rfl⟩ := List.getElem?_eq_some_iff.mp hi
  -- A tab that stands before it and has its name would stand at the same place.
  refine List.findIdx?_eq_some_iff_getElem.mpr ⟨hlt, by simp, fun j hji heq => ?_⟩
  have hlt' : j < p.tabs.length := Nat.lt_trans hji hlt
  have hplace : (p.tabs.map Tab.id)[j]? = (p.tabs.map Tab.id)[i]? := by
    simpa [List.getElem?_eq_getElem, hlt, hlt'] using heq
  exact Nat.ne_of_lt hji ((List.getElem?_inj (by simpa using hlt') hd).mp hplace)

/-- An id that no tab has has no place. -/
theorem index?_eq_none {id : String} (hid : id ∉ p.tabs.map Tab.id) : p.index? id = none := by
  refine List.findIdx?_eq_none_iff.mpr fun t ht => ?_
  simpa using fun heq => hid (List.mem_map.mpr ⟨t, ht, heq⟩)

/-- Tabs with names of their own are found wherever they stand. -/
theorem tab?_eq_some {id : String} (hd : (p.tabs.map Tab.id).Nodup) :
    p.tab? id = some t ↔ t ∈ p.tabs ∧ t.id = id := by
  constructor
  · intro h
    exact ⟨List.mem_of_find?_eq_some h, by simpa using List.find?_some h⟩
  · rintro ⟨ht, rfl⟩
    cases hf : p.tab? t.id with
    | none =>
      have hne := List.find?_eq_none.mp hf t ht
      simp at hne
    | some u =>
      have hid : u.id = t.id := by simpa using List.find?_some hf
      rw [List.inj_on_of_nodup_map hd (List.mem_of_find?_eq_some hf) ht hid]

/-! ### Commands handed to the tabs in turn -/

/-- A tab that does not handle a command leaves it to the tabs after it. -/
theorem offer_cons_of_refused {places : List Nat} {notices : List Notice}
    (h : p.address i c = p.ignore notices) :
    p.offer c (i :: places) =
      { p.offer c places with notices := notices ++ (p.offer c places).notices } := by
  simp [offer, h, ignore]

/-- A command that none of the tabs knows. -/
theorem offer_of_unknown {places : List Nat}
    (h : ∀ i ∈ places, ∀ t, p.tabs[i]? = some t → ¬ t.Knows c) :
    p.offer c places = p.ignore [] := by
  induction places with
  | nil => rfl
  | cons i places ih =>
    have hhead := address_of_not_knows (h i List.mem_cons_self)
    have htail := ih fun j hj => h j (List.mem_cons_of_mem _ hj)
    rw [offer_cons_of_refused hhead, htail]
    rfl

/-- A command that one of the tabs knows. -/
theorem offer_of_knows (hd : (p.tabs.map Tab.daemon).Nodup) (hi : p.tabs[i]? = some t)
    (hk : t.Knows c) {places : List Nat} (hp : places.Nodup) (hmem : i ∈ places) :
    p.offer c places = p.address i c := by
  induction places with
  | nil => cases hmem
  | cons j places ih =>
    obtain ⟨hj, hplaces⟩ := List.nodup_cons.mp hp
    rcases List.mem_cons.mp hmem with rfl | hmem
    · cases hh : (p.address i c).handled with
      | true => simp [offer, hh]
      | false =>
        -- The tab refuses the command, and the tabs after it do not know it.
        have hrest : p.offer c places = p.ignore [] := by
          refine offer_of_unknown fun k hk' u hu hknows => hj ?_
          rwa [place_unique hd hi hu (hk.daemon_eq hknows)]
        have hrefused := address_eq_ignore hh
        rw [offer_cons_of_refused hrefused, hrest, hrefused]
        simp [ignore]
    · have hother : p.address j c = p.ignore [] := by
        refine address_of_not_knows fun u hu hknows => hj ?_
        rwa [place_unique hd hu hi (hknows.daemon_eq hk)]
      rw [offer_cons_of_refused hother, ih hplaces hmem]
      rfl

/-! ### Where a command goes -/

section Dispatch

variable (hs : c.name ≠ selectWord) (hr : c.name ≠ refreshWord)

include hs hr

/-- A command that names a tab. -/
theorem dispatch_to (hd : (p.tabs.map Tab.id).Nodup) (hi : p.tabs[i]? = some t)
    (hc : c.tab = some t.id) : p.dispatch c = p.address i c := by
  simp [dispatch, hs, hr, hc, index?_of_tab hd hi]

/-- A command that names a tab there is not. -/
theorem dispatch_to_none {id : String} (hid : id ∉ p.tabs.map Tab.id) (hc : c.tab = some id) :
    p.dispatch c = p.ignore [] := by
  simp [dispatch, hs, hr, hc, index?_eq_none hid]

/-- A command that names no tab and that one of the tabs knows. -/
theorem dispatch_of_knows (hd : (p.tabs.map Tab.daemon).Nodup) (hc : c.tab = none)
    (hi : p.tabs[i]? = some t) (hk : t.Knows c) : p.dispatch c = p.address i c := by
  have hmem : i ∈ List.range p.tabs.length :=
    List.mem_range.mpr (List.getElem?_eq_some_iff.mp hi).1
  simpa [dispatch, hs, hr, hc] using offer_of_knows hd hi hk List.nodup_range hmem

/-- A command that names no tab and that none of the tabs knows. -/
theorem dispatch_of_unknown (hc : c.tab = none) (hk : ∀ t ∈ p.tabs, ¬ t.Knows c) :
    p.dispatch c = p.ignore [] := by
  have hoffer : p.offer c (List.range p.tabs.length) = p.ignore [] :=
    offer_of_unknown fun i _ t hi => hk t (List.mem_of_getElem? hi)
  simpa [dispatch, hs, hr, hc] using hoffer

end Dispatch

end Panel

end Dashboard
