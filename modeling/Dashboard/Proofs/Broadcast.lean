import Dashboard.Proofs.Addressing
import Mathlib.Data.List.Perm.Basic
/-!
# Commands that name no tab

A command that names no tab is handed to the tabs in turn, each of which may change when it gets it.
What comes of it does not depend on the turns: it is what comes of handing the command to the one
tab that knows it.

* `Panel.Errand` — a piece of work that names its tab.
* `Panel.SameButOrder` — what a command did, up to the order of the tabs.
* `Panel.dispatch_cases` — the command goes to the tab that knows it, or to none.
* `Panel.tabs_dispatch` — every tab is as if it alone had got the command.
* `Panel.dispatch_perm` — the order of the tabs is no matter.
* `unaddressed_command_finds_its_tab` — all of it together.
-/

namespace Dashboard.Panel

/-- A piece of work that names its tab. -/
inductive Errand where
  | load (tab : String) (ticket : Nat) (daemon : Daemon) (queries : List Tab.Query)
  | change (tab : String) (mutation : Tab.Mutation)

/-- A piece of work, with the name of the tab at its place. -/
def errand? (p : Panel) : Work → Option Errand
  | .load i ticket daemon queries => p.tabs[i]?.map fun t => .load t.id ticket daemon queries
  | .change i mutation => p.tabs[i]?.map fun t => .change t.id mutation

/-- What a command did to two panels, `routed` to `p` and `routed'` to `p'`, is the same but for the
    order of the tabs, which each panel keeps. -/
structure SameButOrder (p p' : Panel) (routed routed' : Routed) : Prop where
  handled : routed'.handled = routed.handled
  work : routed'.work.map p'.errand? = routed.work.map p.errand?
  notices : routed'.notices = routed.notices
  tab : ∀ id, routed'.panel.tab? id = routed.panel.tab? id
  order : routed'.panel.tabs.map Tab.id = p'.tabs.map Tab.id
  others : routed'.panel = { routed.panel with tabs := routed'.panel.tabs }

variable {p p' : Panel} {i j : Nat} {t : Tab} {c : Command}

/-! ### What a command comes to for all tabs -/

/-- The tabs after a command that one of them knows. -/
theorem set_after (hd : (p.tabs.map Tab.daemon).Nodup) (hi : p.tabs[i]? = some t)
    (hk : t.Knows c) : p.tabs.set i (t.after c) = p.tabs.map (·.after c) := by
  refine List.ext_getElem? fun j => ?_
  rw [List.getElem?_map]
  by_cases hj : j = i
  · subst hj
    rw [List.getElem?_set_self (List.getElem?_eq_some_iff.mp hi).1, hi, Option.map_some]
  · rw [List.getElem?_set_ne (Ne.symm hj)]
    cases hu : p.tabs[j]? with
    | none => rfl
    | some u =>
      -- A tab at another place is on another daemon.
      have hunknown : ¬ u.Knows c := fun hu' => hj (place_unique hd hu hi (hu'.daemon_eq hk))
      rw [Option.map_some, Tab.after_of_not_knows hunknown]

/-- At most one tab handles a command. -/
theorem countP_isHandled_le (hd : (p.tabs.map Tab.daemon).Nodup) (c : Command) :
    p.tabs.countP (fun t => (t.react c).2.isHandled) ≤ 1 := by
  by_cases hk : ∃ t ∈ p.tabs, t.Knows c
  · -- Whatever handles the command is on the daemon of a tab that knows it.
    obtain ⟨t, -, hk⟩ := hk
    calc p.tabs.countP (fun u => (u.react c).2.isHandled)
        ≤ p.tabs.countP ((· == t.daemon) ∘ Tab.daemon) :=
          List.countP_mono_left fun u _ hu => by
            simpa using (Tab.knows_of_isHandled hu).daemon_eq hk
      _ = (p.tabs.map Tab.daemon).count t.daemon := by rw [List.count, List.countP_map]
      _ ≤ 1 := List.nodup_iff_count_le_one.mp hd _
  · have hnone : p.tabs.countP (fun t => (t.react c).2.isHandled) = 0 :=
      List.countP_eq_zero.mpr fun t ht h => hk ⟨t, ht, Tab.knows_of_isHandled h⟩
    omega

section Unaddressed

variable (hd : (p.tabs.map Tab.daemon).Nodup) (hc : c.tab = none) (hs : c.name ≠ selectWord)
  (hr : c.name ≠ refreshWord)

include hd hc hs hr

/-- The command goes to the tab that knows it, or to none. -/
theorem dispatch_cases :
    (∃ (i : Nat) (t : Tab), p.tabs[i]? = some t ∧ t.Knows c ∧ p.dispatch c = p.address i c) ∨
      (∀ t ∈ p.tabs, ¬ t.Knows c) ∧ p.dispatch c = p.ignore [] := by
  by_cases hk : ∃ t ∈ p.tabs, t.Knows c
  · obtain ⟨t, ht, hk⟩ := hk
    obtain ⟨i, hi⟩ := List.getElem?_of_mem ht
    exact .inl ⟨i, t, hi, hk, dispatch_of_knows hs hr hd hc hi hk⟩
  · have hunknown : ∀ t ∈ p.tabs, ¬ t.Knows c := fun t ht h => hk ⟨t, ht, h⟩
    exact .inr ⟨hunknown, dispatch_of_unknown hs hr hc hunknown⟩

/-- Every tab is as if it alone had got the command. -/
theorem tabs_dispatch : (p.dispatch c).panel.tabs = p.tabs.map (·.after c) := by
  rcases dispatch_cases hd hc hs hr with ⟨i, t, hi, hk, h⟩ | ⟨hunknown, h⟩
  · rw [h, address_eq hi]
    exact set_after hd hi hk
  · rw [h]
    exact (List.map_congr_left fun t ht => Tab.after_of_not_knows (hunknown t ht)).trans
      (List.map_id _) |>.symm

/-- The command is handled if one of the tabs handles it. -/
theorem handled_dispatch :
    (p.dispatch c).handled = p.tabs.any fun t => (t.react c).2.isHandled := by
  rw [Bool.eq_iff_iff, List.any_eq_true]
  rcases dispatch_cases hd hc hs hr with ⟨i, t, hi, hk, h⟩ | ⟨hunknown, h⟩
  · have ht := List.mem_of_getElem? hi
    rw [h, address_eq hi]
    constructor
    · exact fun h => ⟨t, ht, h⟩
    · rintro ⟨u, hu, h⟩
      have hdaemon := (Tab.knows_of_isHandled h).daemon_eq hk
      rwa [← List.inj_on_of_nodup_map hd hu ht hdaemon]
  · rw [h]
    constructor
    · exact fun h => nomatch h
    · exact fun ⟨t, ht, h⟩ => absurd (Tab.knows_of_isHandled h) (hunknown t ht)

end Unaddressed

/-! ### The order of the tabs -/

/-- A tab is found under its id whatever the order of the tabs. -/
theorem tab?_perm (hd : (p.tabs.map Tab.id).Nodup) (hp : p'.tabs.Perm p.tabs) (id : String) :
    p'.tab? id = p.tab? id := by
  have hd' : (p'.tabs.map Tab.id).Nodup := (hp.map _).nodup_iff.mpr hd
  ext t
  rw [tab?_eq_some hd, tab?_eq_some hd', hp.mem_iff]

/-- The work for a tab is the same wherever the tab stands. -/
theorem map_errand?_workAt (hi : p.tabs[i]? = some t) (hj : p'.tabs[j]? = some t) (c : Command) :
    (t.workAt c j).map p'.errand? = (t.workAt c i).map p.errand? := by
  unfold Tab.workAt
  split <;> simp [errand?, hi, hj]

/-- What becomes of a command that names no tab does not depend on the order of the tabs. -/
theorem dispatch_perm {tabs : List Tab} (hd : (p.tabs.map Tab.daemon).Nodup) (hc : c.tab = none)
    (hs : c.name ≠ selectWord) (hr : c.name ≠ refreshWord) (hp : tabs.Perm p.tabs) :
    SameButOrder p { p with tabs } (p.dispatch c) (({ p with tabs } : Panel).dispatch c) := by
  have hd' : (tabs.map Tab.daemon).Nodup := (hp.map _).nodup_iff.mpr hd
  have htabs := tabs_dispatch hd hc hs hr
  have htabs' := tabs_dispatch (p := { p with tabs }) hd' hc hs hr
  have hnames : (p.tabs.map (·.after c)).map Tab.id = p.tabs.map Tab.id := by
    simp [Function.comp_def]
  -- Both panels hold the same tabs after the command, in different orders.
  have htab (id : String) :
      (({ p with tabs } : Panel).dispatch c).panel.tab? id = (p.dispatch c).panel.tab? id := by
    refine tab?_perm ?_ ?_ id
    · rw [htabs, hnames]
      exact nodup_ids hd
    · rw [htabs, htabs']
      exact hp.map _
  have horder : (({ p with tabs } : Panel).dispatch c).panel.tabs.map Tab.id =
      tabs.map Tab.id := by
    rw [htabs']
    simp [Function.comp_def]
  rcases dispatch_cases hd hc hs hr with ⟨i, t, hi, hk, h⟩ | ⟨hunknown, h⟩
  · have ht := List.mem_of_getElem? hi
    obtain ⟨j, hj⟩ := List.getElem?_of_mem (hp.mem_iff.mpr ht)
    rw [h, address_eq hi] at htab ⊢
    rw [dispatch_of_knows (p := { p with tabs }) hs hr hd' hc hj hk, address_eq hj] at htab horder ⊢
    exact ⟨rfl, map_errand?_workAt hi hj c, rfl, htab, horder, rfl⟩
  · rw [h] at htab ⊢
    rw [dispatch_of_unknown (p := { p with tabs }) hs hr hc fun t ht =>
      hunknown t (hp.mem_iff.mp ht)] at htab horder ⊢
    exact ⟨rfl, rfl, rfl, htab, horder, rfl⟩

end Dashboard.Panel

namespace Dashboard

open Panel

/-- What becomes of a command that names no tab, where the tabs are on daemons of their own. At most
    one tab handles it, and it is handled if one does; the order of the tabs is no matter; it is
    what becomes of the command when it names the tab that knows it. A command that no tab knows
    does nothing, nor does one that names a tab which does not know it, or a tab there is not. -/
theorem unaddressed_command_finds_its_tab {p : Panel} (hd : (p.tabs.map Tab.daemon).Nodup)
    {c : Command} (hc : c.tab = none) (hs : c.name ≠ selectWord) (hr : c.name ≠ refreshWord) :
    p.tabs.countP (fun t => (t.react c).2.isHandled) ≤ 1 ∧
    ((p.dispatch c).handled = p.tabs.any fun t => (t.react c).2.isHandled) ∧
    (∀ tabs : List Tab, tabs.Perm p.tabs →
      SameButOrder p { p with tabs } (p.dispatch c) (({ p with tabs } : Panel).dispatch c)) ∧
    (∀ t ∈ p.tabs, p.dispatch { c with tab := some t.id } =
      if t.Knows c then p.dispatch c else p.ignore []) ∧
    ((∀ t ∈ p.tabs, ¬ t.Knows c) → p.dispatch c = p.ignore []) ∧
    ∀ id, id ∉ p.tabs.map Tab.id → p.dispatch { c with tab := some id } = p.ignore [] := by
  refine ⟨countP_isHandled_le hd c, handled_dispatch hd hc hs hr,
    fun tabs hp => dispatch_perm hd hc hs hr hp, fun t ht => ?_, dispatch_of_unknown hs hr hc,
    fun id hid => dispatch_to_none (c := { c with tab := some id }) hs hr hid rfl⟩
  -- A command that names its tab is handed to that tab alone.
  obtain ⟨i, hi⟩ := List.getElem?_of_mem ht
  rw [dispatch_to (c := { c with tab := some t.id }) hs hr (nodup_ids hd) hi rfl,
    address_with_tab]
  split
  case isTrue hk => exact (dispatch_of_knows hs hr hd hc hi hk).symm
  case isFalse hk =>
    refine address_of_not_knows fun u hu => ?_
    rwa [← Option.some.inj (hi.symm.trans hu)]

/-- A command to clear a module finds its tab, also on the panel in reverse order. -/
theorem unaddressed_command_finds_its_tab_clear :
    let p := Panel.ofSettings .default
    let c : Command :=
      { name := "clearMemoryModule", arguments := [("module", .string "embeddings")] }
    ((p.tabs.map Tab.daemon).Nodup ∧ c.tab = none ∧ c.name ≠ selectWord ∧ c.name ≠ refreshWord) ∧
    (p.dispatch c).handled = true ∧
    SameButOrder p { p with tabs := p.tabs.reverse } (p.dispatch c)
      (({ p with tabs := p.tabs.reverse } : Panel).dispatch c) := by
  intro p c
  have hd : (p.tabs.map Tab.daemon).Nodup := by decide
  have hs : c.name ≠ selectWord := by decide
  have hr : c.name ≠ refreshWord := by decide
  obtain ⟨-, hhandled, horder, -⟩ := unaddressed_command_finds_its_tab hd (c := c) rfl hs hr
  refine ⟨⟨hd, rfl, hs, hr⟩, ?_, horder _ (List.reverse_perm _)⟩
  rw [hhandled]
  rfl

end Dashboard
