import Dashboard.Proofs.Addressing
import Dashboard.Proofs.TabShare
/-!
# What a move of a session makes of a tab

A tab changes by its own steps alone: a command is handed to it, or one of its loads begins or ends.

* `Tab.Gets` — what a command to the panel does to one tab, and the work that is made for it;
  `Panel.dispatch_at` — that there is nothing else, `Panel.dispatch_meant` — a command that is
  meant for a tab gets there.
* `Tab.Becomes`, `Course.becomes_after` — what a move makes of a tab.
* `Course.turn_induction`, `Course.tab_induction` — what these steps keep holds in every course.
* `Course.daemons_eq`, `Course.exists_tab` — tabs stay where they are.
-/

namespace Dashboard

open Panel Session Relation

/-! ### A command comes -/

/-- A command that is meant for a tab: it is none of the panel's own, and names the tab or none. -/
structure Tab.IsMeant (t : Tab) (c : Command) : Prop where
  not_select : c.name ≠ selectWord
  not_refresh : c.name ≠ refreshWord
  tab : c.tab = none ∨ c.tab = some t.id

/-- What a command to the panel does to the tab at a place, with the work that is made for it. -/
inductive Tab.Gets (t : Tab) (i : Nat) (c : Command) : Tab → List Work → Prop where
  /-- Nothing. -/
  | nothing : Gets t i c t []
  /-- All tabs are loaded. -/
  | refresh (hc : c.name = refreshWord) : Gets t i c t.begin.2 [t.loadWork i]
  /-- The tab is handed the command. -/
  | command (hc : t.IsMeant c) : Gets t i c (t.after c) (t.workAt c i)

namespace Panel

variable {p : Panel} {i : Nat} {t : Tab}

/-- To hand a command to the tab at a place, seen from any place. -/
theorem address_at (hi : p.tabs[i]? = some t) (j : Nat) (c : Command) :
    (j = i ∧ (p.address j c).panel.tabs[i]? = some (t.after c) ∧
      (p.address j c).work.filter (·.index == i) = t.workAt c i) ∨
    (p.address j c).panel.tabs[i]? = some t ∧
      (p.address j c).work.filter (·.index == i) = [] := by
  by_cases hj : j = i
  · subst hj
    have hlt := (List.getElem?_eq_some_iff.mp hi).1
    have hall : (t.workAt c j).filter (·.index == j) = t.workAt c j :=
      List.filter_eq_self.mpr fun w hw => by simp [Tab.mem_workAt hw]
    rw [address_eq hi]
    exact .inl ⟨rfl, List.getElem?_set_self hlt, hall⟩
  · obtain ⟨htab, hwork⟩ := p.address_other hj c
    exact .inr ⟨htab.trans hi, hwork⟩

/-- To hand a command to the tabs in turn, seen from one place. -/
theorem offer_at (hi : p.tabs[i]? = some t) (c : Command) (places : List Nat) :
    ((p.offer c places).panel.tabs[i]? = some (t.after c) ∧
      (p.offer c places).work.filter (·.index == i) = t.workAt c i) ∨
    (p.offer c places).panel.tabs[i]? = some t ∧
      (p.offer c places).work.filter (·.index == i) = [] := by
  induction places with
  | nil => exact .inr ⟨hi, rfl⟩
  | cons j places ih =>
    rw [offer]
    dsimp only
    split
    · exact (address_at hi j c).imp And.right id
    · rename_i hrefused
      rw [address_of_not_handled (by simpa using hrefused)]
      exact ih

/-- A command to the panel gives the tab at a place nothing, a load or the command. -/
theorem dispatch_at (hi : p.tabs[i]? = some t) (c : Command) :
    ∃ t', (p.dispatch c).panel.tabs[i]? = some t' ∧
      t.Gets i c t' ((p.dispatch c).work.filter (·.index == i)) := by
  rw [dispatch]
  split
  · -- To make a tab active leaves the tabs.
    obtain ⟨htabs, hwork⟩ := p.select_tabs c
    exact ⟨t, htabs ▸ hi, hwork ▸ .nothing⟩
  · rename_i hs
    split
    · rename_i hr
      refine ⟨t.begin.2, by simp [beginAll_eq, hi], ?_⟩
      rw [filter_loads_at hi]
      exact .refresh hr
    · rename_i hr
      split
      · rename_i htab
        -- The command names no tab and is offered to all in turn.
        rcases offer_at hi c (List.range p.tabs.length) with ⟨ht, hw⟩ | ⟨ht, hw⟩
        · exact ⟨_, ht, hw ▸ .command ⟨hs, hr, .inl htab⟩⟩
        · exact ⟨_, ht, hw ▸ .nothing⟩
      · rename_i id htab
        split
        · rename_i j hj
          -- The command names the tab at some place, which is this one or another one.
          rcases address_at hi j c with ⟨rfl, ht, hw⟩ | ⟨ht, hw⟩
          · have hid : t.id = id := by
              obtain ⟨hlt, hfound, -⟩ := List.findIdx?_eq_some_iff_getElem.mp hj
              rw [(List.getElem?_eq_some_iff.mp hi).2] at hfound
              exact beq_iff_eq.mp hfound
            exact ⟨_, ht, hw ▸ .command ⟨hs, hr, .inr (hid ▸ htab)⟩⟩
          · exact ⟨_, ht, hw ▸ .nothing⟩
        · exact ⟨t, hi, .nothing⟩

/-- Where no two tabs are on one daemon, a command gets to every tab that it may be meant for. -/
theorem dispatch_meant (hd : (p.tabs.map Tab.daemon).Nodup) (hi : p.tabs[i]? = some t)
    {c : Command} (hc : t.IsMeant c) :
    (p.dispatch c).panel.tabs[i]? = some (t.after c) := by
  have hlt := (List.getElem?_eq_some_iff.mp hi).1
  have haddress : (p.address i c).panel.tabs[i]? = some (t.after c) := by
    rw [address_eq hi]
    exact List.getElem?_set_self hlt
  obtain ⟨hs, hr, hc | hc⟩ := hc
  · by_cases hk : t.Knows c
    · rw [dispatch_of_knows hs hr hd hc hi hk, haddress]
    · -- To a tab that does not know the command it makes no difference whether it comes.
      obtain ⟨t', ht', hgets⟩ := dispatch_at hi c
      rw [ht', Tab.after_of_not_knows hk]
      generalize (p.dispatch c).work.filter _ = work at hgets
      cases hgets with
      | nothing => rfl
      | refresh h => exact absurd h hr
      | command => rw [Tab.after_of_not_knows hk]
  · rw [dispatch_to hs hr (nodup_ids hd) hi hc, haddress]

end Panel

/-! ### A move is made -/

/-- What a move makes of a tab. -/
inductive Tab.Becomes (t : Tab) : Tab → Prop where
  | rest : Becomes t t
  | begin : Becomes t t.begin.2
  | complete (ticket : Nat) (report : Report) : Becomes t (t.complete ticket report).2
  | command (c : Command) : Becomes t (t.after c)

variable {p : Panel} {x y : Course} {i : Nat} {t t' : Tab}

/-- After a command a tab is what it made of itself, and a load may have begun. -/
theorem Tab.after_cases (t : Tab) (c : Command) :
    t.after c = (t.react c).1 ∨
      t.after c = (t.react c).1.begin.2 ∧ (t.react c).2 = .reload := by
  unfold after
  split
  · rename_i t' hreact
    rw [hreact]
    exact .inr ⟨rfl, rfl⟩
  · rename_i t' r _ hreact
    rw [hreact]
    exact .inl rfl

/-- What a command to the panel makes of a tab is what a move can make of it. -/
theorem Tab.Gets.becomes {c : Command} {work : List Work} (h : t.Gets i c t' work) :
    t.Becomes t' := by
  cases h with
  | nothing => exact .rest
  | refresh => exact .begin
  | command => exact .command c

/-- What comes of work makes of the tab at a place what it makes of the tab that the work was for. -/
theorem Panel.apply_becomes (hi : p.tabs[i]? = some t) (done : Completion) :
    ∃ t', (p.apply done).panel.tabs[i]? = some t' ∧ t.Becomes t' := by
  have hlt := (List.getElem?_eq_some_iff.mp hi).1
  by_cases hd : done.index = i
  · -- The work was for this tab.
    cases done with
    | changed j reply =>
      obtain rfl : j = i := hd
      refine ⟨_, ?_, .begin⟩
      simp [apply, applyChange, beginLoad_of_some hi, setTab, hlt]
    | loaded j ticket report =>
      obtain rfl : j = i := hd
      refine ⟨_, ?_, .complete ticket report⟩
      simp only [apply, applyReport, hi]
      split <;> simp [setTab, signal, hlt]
  · exact ⟨t, (apply_other hd).1.trans hi, .rest⟩

/-- A move makes of a tab one of the few things that it can. -/
theorem Course.becomes_after (ht : x.session.panel.tabs[i]? = some t) (now : Time.Instant)
    (m : Move) :
    ∃ t', (x.after now m).session.panel.tabs[i]? = some t' ∧ t.Becomes t' := by
  rw [session_after, flush_fst]
  cases m with
  | receive c =>
    obtain ⟨t', ht', hgets⟩ := dispatch_at ht c
    exact ⟨t', ht', hgets.becomes⟩
  | settle place done => exact apply_becomes ht done
  | close => exact ⟨t, ht, .rest⟩

/-- A tab before a move, by what the move has made of it. -/
theorem Course.becomes_of_after {now : Time.Instant} {m : Move}
    (ht : (x.after now m).session.panel.tabs[i]? = some t') :
    ∃ t, x.session.panel.tabs[i]? = some t ∧ t.Becomes t' := by
  have hlt := (List.getElem?_eq_some_iff.mp ht).1
  rw [length_after] at hlt
  obtain ⟨t'', ht'', hbecomes⟩ := becomes_after (List.getElem?_eq_getElem hlt) now m
  obtain rfl : t'' = t' := Option.some.inj (ht''.symm.trans ht)
  exact ⟨_, List.getElem?_eq_getElem hlt, hbecomes⟩

/-- What holds of a tab before its first load, and is kept by every step that its share of a session
    makes, holds in every course. -/
theorem Course.turn_induction {P : Share → Prop} (new : ∀ t, p.tabs[i]? = some t → P ⟨t, [], []⟩)
    (step : ∀ signals s s', Share.Step i signals s s' → s.tab.Becomes s'.tab → P s → P s')
    (hx : Opens p x) (hxy : ReflTransGen Next x y) {s : Share} (hs : y.share? i = some s) : P s := by
  induction hxy generalizing s with
  | refl =>
    obtain ⟨ht, hw, hl⟩ := Course.share?_eq_some.mp hs
    cases hx with
    | idle =>
      have hs : s = ⟨s.tab, [], []⟩ := Share.ext rfl hw.symm hl.symm
      rw [hs]
      exact new s.tab ht
    | first now =>
      -- All loads begin, and this is a step to the tab.
      obtain ⟨t, hp, rfl⟩ := share?_first hs
      exact step [] _ _ (.reload (.refl t)) .begin (new t hp)
  | tail _ hnext ih =>
    obtain ⟨now, m, -, ha⟩ := hnext
    obtain ⟨s₀, hs₀, hstep⟩ := share_of_after ha hs
    obtain ⟨t, ht, hbecomes⟩ := becomes_of_after (Course.share?_eq_some.mp hs).1
    obtain rfl : t = s₀.tab := Option.some.inj (ht.symm.trans (Course.share?_eq_some.mp hs₀).1)
    exact step _ _ _ hstep hbecomes (ih hs₀)

/-- What holds of every tab before its first load, and is kept by every step, holds in every
    course. -/
theorem share_induction {P : Share → Prop} (new : ∀ t, P ⟨t, [], []⟩)
    (step : ∀ signals s s', Share.Step i signals s s' → P s → P s') (hx : Course.Opens p x)
    (hxy : ReflTransGen Course.Next x y) {s : Share} (hs : y.share? i = some s) : P s :=
  Course.turn_induction (fun t _ => new t) (fun _ _ _ hstep _ => step _ _ _ hstep) hx hxy hs

/-- What holds of a tab when a course begins, and is kept by whatever a move makes of it, holds of it
    all along. -/
theorem Course.tab_induction {P : Tab → Prop} (new : ∀ t, p.tabs[i]? = some t → P t)
    (step : ∀ t t', P t → t.Becomes t' → P t') (hx : Opens p x) (hxy : ReflTransGen Next x y)
    (ht : y.session.panel.tabs[i]? = some t) : P t :=
  turn_induction (P := fun s => P s.tab) new (fun _ _ _ _ hb h => step _ _ h hb) hx hxy
    (Course.share?_of_tab ht)

/-- The tabs of a session stay on their daemons. -/
theorem Course.daemons_eq (hx : Opens p x) (hxy : ReflTransGen Next x y) :
    y.session.panel.tabs.map Tab.daemon = p.tabs.map Tab.daemon := by
  induction hxy with
  | refl =>
    cases hx with
    | idle => rfl
    | first now => simp [Course.first, start, beginAll_eq]
  | tail _ hnext ih =>
    obtain ⟨now, m, -, -⟩ := hnext
    rw [session_after, flush_fst, ← ih]
    exact daemons_step _ m

/-- Where there was a tab there is one, and it is on the same daemon. -/
theorem Course.exists_tab (hx : Opens p x) (hxy : ReflTransGen Next x y)
    (ht : p.tabs[i]? = some t) :
    ∃ t', y.session.panel.tabs[i]? = some t' ∧ t'.daemon = t.daemon := by
  have hplace : (y.session.panel.tabs.map Tab.daemon)[i]? = some t.daemon := by
    rw [daemons_eq hx hxy, List.getElem?_map, ht, Option.map_some]
  rw [List.getElem?_map] at hplace
  exact Option.map_eq_some_iff.mp hplace

end Dashboard
