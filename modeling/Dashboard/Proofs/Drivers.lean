import Dashboard.Panel.Drive
import Dashboard.Proofs.Addressing
import Dashboard.World.Script
/-!
# The panel drives its tabs as they would be driven alone

A tab alone does what a command asks for at once. The panel hands the work out, carries it out piece
by piece and hands the tab what came of it, but for a command that names the tab it is the same.

* `Panel.withDriven` — the panel with a tab that was driven.
* `Panel.drain_load`, `Panel.drain_change` — the work that a command makes.
* `Panel.handle_eq` — what the panel does with a command is what its tab does with it.
* `panel_handles_as_tab` — so it is in every world, and by every script.
-/

namespace Dashboard

namespace Panel

/-- The panel with a tab that was driven, and its requests to be drawn again. -/
def withDriven (p : Panel) (i : Nat) (t : Tab) (d : Tab.Driven) : Panel :=
  { p with
    tabs := p.tabs.set i d.tab
    signals := p.signals ++ List.replicate d.signals t.id }

variable {m : Type → Type} [Monad m] [LawfulMonad m] [World m] {p : Panel} {i : Nat}
  {t t' : Tab} {d : Tab.Driven} {c : Command}

/-- A tab that stays as it is and asks for nothing. -/
theorem withDriven_rest (hi : p.tabs[i]? = some t) (done : Bool) :
    p.withDriven i t ⟨t, done, 0⟩ = p := by
  simpa [withDriven, setTab] using setTab_self hi

/-- What becomes of a tab that was driven takes the place of what it was before. -/
theorem withDriven_setTab (hid : t'.id = t.id) :
    (p.setTab i t').withDriven i t' d = p.withDriven i t d := by
  simp [withDriven, setTab, hid]

omit [LawfulMonad m] in
@[simp] theorem noteAll_nil : (World.noteAll [] : m Unit) = pure () := rfl

/-- A load that is all there is to do. -/
theorem drain_load (hi : p.tabs[i]? = some t) :
    ((p.setTab i t.begin.2).drain [.load i t.begin.1 t.daemon t.queries] : m Panel) =
      p.withDriven i t <$> t.load := by
  have hbegun := getElem?_setTab_self hi t.begin.2
  simp only [drain, Tab.load, applyReport, hbegun, Tab.daemon_begin, Tab.queries_begin, map_bind]
  refine bind_congr fun report => ?_
  -- Either the report is applied, and the tab asks to be drawn again, or nothing happens.
  cases (t.begin.2.complete t.begin.1 report).1
  · simp [withDriven, setTab]
  · simp [withDriven, setTab, signal]

/-- A mutation that is all there is to do, with the load that follows it. -/
theorem drain_change (hi : p.tabs[i]? = some t) (change : Tab.Mutation) :
    (p.drain [.change i change] : m Panel) =
      change.perform >>= fun _ => p.withDriven i t <$> t.load := by
  simp only [drain, applyChange, beginLoad_of_some hi, List.nil_append, drain_load hi]

/-- What the panel does with a command for a tab is what the tab does with it. -/
theorem handle_eq (hi : p.tabs[i]? = some t) (hc : p.dispatch c = p.address i c) :
    (p.handle c : m (Bool × Panel)) = (fun d => (d.done, p.withDriven i t d)) <$> t.handle c := by
  have hr := t.reacts c
  simp only [handle, hc, address, hi, Tab.handle]
  generalize t.react c = answer at hr ⊢
  -- A tab that stays as it is is put back where it was; otherwise both go on with the new one.
  cases hr with
  | @asks r h =>
    cases r with
    | ignored refusal => simp [route, ignore, setTab_self hi, drain, withDriven_rest hi]
    | change change =>
      simp only [route, setTab_self hi, drain_change hi, Tab.Reaction.notices, noteAll_nil,
        pure_bind, map_bind, bind_pure_comp, Functor.map_map]
      rfl
    | redraw => exact h.elim
    | reload => exact h.elim
  | redraw h =>
    simp [route, signal, setTab, drain, withDriven, Tab.Reaction.notices, h.id_eq]
  | @reload t' h =>
    have hi' := getElem?_setTab_self hi t'
    simp only [route, beginLoad_of_some hi', drain_load hi', Tab.Reaction.notices, noteAll_nil,
      pure_bind, bind_pure_comp, Functor.map_map, withDriven_setTab h.id_eq]
    rfl

end Panel

/-- A command that names a tab and is not one of the panel's own is handled by the panel as by the
    tab alone. In every world the panel carries out the same calls and notes the same as the tab
    does, and then answers the same and holds the tab as it is then, with as many requests to be
    drawn again; all else is as it was. So it is by every script. -/
theorem panel_handles_as_tab {p : Panel} (hd : (p.tabs.map Tab.id).Nodup) {i : Nat} {t : Tab}
    (hi : p.tabs[i]? = some t) {c : Command} (hc : c.tab = some t.id)
    (hs : c.name ≠ Panel.selectWord) (hr : c.name ≠ Panel.refreshWord) :
    (∀ (m : Type → Type) [Monad m] [LawfulMonad m] [World m],
      (p.handle c : m (Bool × Panel)) =
        (fun d =>
          (d.done,
            { p with
              tabs := p.tabs.set i d.tab
              signals := p.signals ++ List.replicate d.signals t.id })) <$> t.handle c) ∧
    ∀ r : Rehearsal,
      let byPanel := (p.handle c : StateM Rehearsal _).run r
      let byTab := (t.handle c : StateM Rehearsal _).run r
      byPanel.1.1 = byTab.1.done ∧
      byPanel.2 = byTab.2 ∧
      byPanel.1.2.tabs[i]? = some byTab.1.tab ∧
      byPanel.1.2.signals = p.signals ++ List.replicate byTab.1.signals t.id ∧
      (∀ j, j ≠ i → byPanel.1.2.tabs[j]? = p.tabs[j]?) ∧
      byPanel.1.2.active = p.active := by
  -- The panel does for the tab what the tab does, and puts the tab back.
  have heq (m : Type → Type) [Monad m] [LawfulMonad m] [World m] :=
    Panel.handle_eq (m := m) hi (Panel.dispatch_to hs hr hd hi hc)
  refine ⟨fun m => heq m, fun r => ?_⟩
  · have hlt := (List.getElem?_eq_some_iff.mp hi).1
    rw [heq]
    refine ⟨rfl, rfl, ?_, rfl, fun j hj => ?_, rfl⟩
    · exact List.getElem?_set_self hlt
    · exact List.getElem?_set_ne (Ne.symm hj)

/-- A mutation that fails, with a load after it that fails too. -/
theorem panel_handles_as_tab_failing :
    let p := Panel.ofSettings .default
    let t := Tab.new .cron 3 20
    let c : Command :=
      { name := "toggleCronJob", tab := some "cron"
        arguments := [("enabled", .bool true), ("name", .string "backup")] }
    ((p.tabs.map Tab.id).Nodup ∧ p.tabs[0]? = some t ∧ c.tab = some t.id ∧
      c.name ≠ Panel.selectWord ∧ c.name ≠ Panel.refreshWord) ∧
    ((p.handle c : StateM Rehearsal _).run {}).1.1 = true ∧
    ((p.handle c : StateM Rehearsal _).run {}).2.script.calls.map (·.method) =
      ["setJobEnabled", "getJobs", "getHistory"] := by
  intro p t c
  have hd : (p.tabs.map Tab.id).Nodup := by decide
  have hs : c.name ≠ Panel.selectWord := by decide
  have hr : c.name ≠ Panel.refreshWord := by decide
  obtain ⟨-, hrun⟩ := panel_handles_as_tab hd (i := 0) (t := t) rfl (c := c) rfl hs hr
  obtain ⟨hanswer, hworld, -⟩ := hrun {}
  refine ⟨⟨hd, rfl, rfl, hs, hr⟩, ?_, ?_⟩
  · rw [hanswer]
    rfl
  · rw [hworld]
    rfl

end Dashboard
