import Dashboard.Proofs.TabShare
import Mathlib.Data.List.Nodup
/-!
# The view keeps up with the panel

Frames are sent for tabs that asked to be drawn again, and the bar is sent where it may have
changed. Nothing that can be seen changes without this.

* `Frame.lastBar?`, `Frame.lastRendering?` — what the view holds after some frames.
* `Course.render_moment` — every tab that was sent was so at some moment.
* `Course.InStep` — what every move keeps, `InStep.after` — that it does.
* `frames_tell_panel` — what the view holds in every course of a session.
-/

namespace Dashboard

open Panel Session Relation

/-! ### What the view holds -/

namespace Frame

def isBar : Frame → Bool
  | bar .. => true
  | _ => false

/-- The tab that a frame draws. -/
def rendering? : Frame → Option Rendering
  | render r => some r
  | _ => none

/-- The bar that was sent last. -/
def lastBar? (frames : List Frame) : Option Frame := (frames.filter isBar).getLast?

/-- The frames that draw the tab with a name. -/
def renderings (id : String) (frames : List Frame) : List Rendering :=
  (frames.filterMap rendering?).filter (·.id == id)

/-- The tab with a name as it was sent last. -/
def lastRendering? (id : String) (frames : List Frame) : Option Rendering :=
  (renderings id frames).getLast?

@[simp] theorem renderings_append (id : String) (frames more : List Frame) :
    renderings id (frames ++ more) = renderings id frames ++ renderings id more := by
  simp [renderings]

/-- What is drawn after something else is what the view holds. -/
theorem lastRendering?_append_of_forall {id : String} {frames more : List Frame} {r : Rendering}
    (hr : ∀ r' ∈ renderings id more, r' = r) (hne : renderings id more ≠ []) :
    lastRendering? id (frames ++ more) = some r := by
  have hlast : (renderings id more).getLast hne = r := hr _ (List.getLast_mem hne)
  rw [lastRendering?, renderings_append, List.getLast?_append, List.getLast?_eq_some_getLast hne,
    hlast, Option.some_or]

end Frame

/-! ### What is sent at once -/

namespace Panel

variable {p : Panel} {now : Time.Instant} {t : Tab}

theorem id_of_tab? {id : String} (h : p.tab? id = some t) : t.id = id := by
  simpa using List.find?_some h

/-- A tab is found by its name. -/
theorem tab?_id (hids : (p.tabs.map Tab.id).Nodup) (ht : t ∈ p.tabs) : p.tab? t.id = some t := by
  have hsome : (p.tab? t.id).isSome := by
    rw [tab?, List.find?_isSome]
    exact ⟨t, ht, by simp⟩
  obtain ⟨u, hu⟩ := Option.isSome_iff_exists.mp hsome
  have hmem : u ∈ p.tabs := List.mem_of_find?_eq_some hu
  have hut : u = t := List.inj_on_of_nodup_map hids hmem ht (id_of_tab? hu)
  rw [hut] at hu
  exact hu

theorem render?_id (hids : (p.tabs.map Tab.id).Nodup) (ht : t ∈ p.tabs) :
    p.render? t.id now = some (t.rendering now) := by
  rw [render?, tab?_id hids ht, Option.map_some]

/-- The frames for the tabs that are asked for. -/
def rendersOf (p : Panel) (now : Time.Instant) (ids : List String) : List Frame :=
  ids.filterMap fun id => (p.render? id now).map Frame.render

/-- The frames that draw some tabs again draw one tab as often as it is among them. -/
theorem renderings_rendersOf (ids : List String) (id : String) :
    Frame.renderings id (p.rendersOf now ids) =
      (ids.filterMap (p.render? · now)).filter (·.id == id) := by
  have h (i : String) : ((p.render? i now).map Frame.render).bind Frame.rendering? =
      p.render? i now := by
    cases p.render? i now <;> rfl
  simp only [Frame.renderings, rendersOf, List.filterMap_filterMap, h]

/-- Of the tabs that are drawn, those with the name of a tab are that tab. -/
theorem mem_renderings_rendersOf (hids : (p.tabs.map Tab.id).Nodup) (ht : t ∈ p.tabs)
    {ids : List String} {r : Frame.Rendering} :
    r ∈ Frame.renderings t.id (p.rendersOf now ids) ↔ t.id ∈ ids ∧ r = t.rendering now := by
  rw [renderings_rendersOf, List.mem_filter, List.mem_filterMap]
  constructor
  · rintro ⟨⟨id, hid, hr⟩, hname⟩
    -- The tab that was drawn has the name of `t`, and no other tab has.
    obtain ⟨u, hu, rfl⟩ := Option.map_eq_some_iff.mp hr
    have hut : u.id = t.id := by simpa [Tab.rendering] using hname
    rw [← id_of_tab? hu, hut] at hid hu
    rw [tab?_id hids ht] at hu
    exact ⟨hid, by rw [Option.some.inj hu]⟩
  · rintro ⟨hid, rfl⟩
    exact ⟨⟨t.id, hid, render?_id hids ht⟩, by simp [Tab.rendering]⟩

end Panel

namespace Session

variable {now : Time.Instant}

theorem eraseDups_eq_nil {ids : List String} : ids.eraseDups = [] ↔ ids = [] := by
  simp only [List.eq_nil_iff_forall_not_mem, List.mem_eraseDups]

/-- What is sent: the tabs that asked to be drawn again, and the bar if it may have changed. -/
theorem flush_snd (s : Session) (now : Time.Instant) :
    (s.flush now).2 = s.panel.rendersOf now s.panel.signals.eraseDups ++
      if s.panel.signals = [] ∧ s.panel.barChanged = false then [] else [s.panel.bar] := by
  unfold flush takeSignals
  dsimp only
  split
  · rename_i h
    have hdue : ¬ (s.panel.signals = [] ∧ s.panel.barChanged = false) := by
      rintro ⟨hs, hb⟩
      simp [hs, hb] at h
    rw [if_neg hdue]
    rfl
  · rename_i h
    have hnone : s.panel.signals = [] ∧ s.panel.barChanged = false := by
      simpa [eraseDups_eq_nil] using h
    rw [if_pos hnone, List.append_nil]
    rfl

/-- The bar that the view holds. -/
theorem lastBar?_flush (s : Session) (now : Time.Instant) (frames : List Frame) :
    Frame.lastBar? (frames ++ (s.flush now).2) =
      if s.panel.signals = [] ∧ s.panel.barChanged = false then Frame.lastBar? frames
      else some s.panel.bar := by
  have hrenders : (s.panel.rendersOf now s.panel.signals.eraseDups).filter Frame.isBar = [] := by
    refine List.filter_eq_nil_iff.mpr fun f hf => ?_
    obtain ⟨id, -, hid⟩ := List.mem_filterMap.mp hf
    obtain ⟨r, -, rfl⟩ := Option.map_eq_some_iff.mp hid
    simp [Frame.isBar]
  rw [flush_snd, Frame.lastBar?, List.filter_append, List.filter_append, hrenders,
    List.nil_append]
  split
  · rw [List.filter_nil, List.append_nil]
    rfl
  · simp [bar, Frame.isBar]

/-- The tab that the view holds. -/
theorem lastRendering?_flush {s : Session} (hids : (s.panel.tabs.map Tab.id).Nodup) {t : Tab}
    (ht : t ∈ s.panel.tabs) (frames : List Frame) :
    Frame.lastRendering? t.id (frames ++ (s.flush now).2) =
      if t.id ∈ s.panel.signals then some (t.rendering now)
      else Frame.lastRendering? t.id frames := by
  -- All drawings of the tab that are sent are alike.
  have hmem (r : Frame.Rendering) : r ∈ Frame.renderings t.id (s.flush now).2 ↔
      t.id ∈ s.panel.signals ∧ r = t.rendering now := by
    have hbar : Frame.renderings t.id (if s.panel.signals = [] ∧ s.panel.barChanged = false then []
        else [s.panel.bar]) = [] := by
      split <;> rfl
    rw [flush_snd, Frame.renderings_append, hbar, List.append_nil, mem_renderings_rendersOf hids ht,
      List.mem_eraseDups]
  split
  · rename_i hsignal
    refine Frame.lastRendering?_append_of_forall (fun r hr => ((hmem r).mp hr).2) fun hnil => ?_
    have hr := (hmem (t.rendering now)).mpr ⟨hsignal, rfl⟩
    simp [hnil] at hr
  · rename_i hsignal
    have hnil : Frame.renderings t.id (s.flush now).2 = [] :=
      List.eq_nil_iff_forall_not_mem.mpr fun r hr => hsignal ((hmem r).mp hr).1
    rw [Frame.lastRendering?, Frame.renderings_append, hnil, List.append_nil]
    rfl

end Session

/-! ### When a frame was drawn -/

namespace Share.Step

variable {i : Nat} {signals : List String} {s s' : Share} {now : Time.Instant}

/-- A tab stays what it is. -/
theorem identity_eq (h : Step i signals s s') : s'.tab.identity = s.tab.identity := by
  cases h with
  | rest | asks | stale => rfl
  | redraw ha => rw [Tab.identity, ha.daemon_eq, Tab.identity]
  | reload ha => rw [Tab.identity_begin, Tab.identity, ha.daemon_eq, Tab.identity]
  | apply => rw [Tab.identity, Tab.daemon_complete, Tab.identity]
  | change => rw [Tab.identity_begin]

/-- A badge changes only where the tab asks to be drawn again. -/
theorem badge_eq (h : Step i [] s s') : s'.tab.badge = s.tab.badge := by
  cases h with
  | rest | asks | stale => rfl
  | redraw _ hs | apply _ _ hs => cases hs
  | reload ha => rw [Tab.badge_begin, ha.badge_eq]
  | change => rw [Tab.badge_begin]

/-- After a step the load that began last is in flight, or the tab asks to be drawn again, or
    nothing that can be seen has changed. -/
theorem shown (h : Step i signals s s') (now : Time.Instant) :
    (∃ daemon queries, .load i s'.tab.status.issued daemon queries ∈ s'.inFlight) ∨
      s.tab.id ∈ signals ∨
      s'.tab.rendering now = s.tab.rendering now ∧
        ∀ daemon queries, .load i s.tab.status.issued daemon queries ∈ s.inFlight →
          .load i s'.tab.status.issued daemon queries ∈ s'.inFlight := by
  cases h with
  | rest => exact .inr (.inr ⟨rfl, fun _ _ hw => hw⟩)
  | asks => exact .inr (.inr ⟨rfl, fun _ _ hw => List.mem_append_left _ hw⟩)
  | redraw _ hs | apply _ _ hs => exact .inr (.inl hs)
  | @reload t ha => exact .inl ⟨t.daemon, t.queries, by simp [Tab.loadWork]⟩
  | change => exact .inl ⟨s.tab.daemon, s.tab.queries, by simp [Tab.loadWork]⟩
  | stale hw ht => exact .inr (.inr ⟨rfl, fun _ _ hmem => latest_stays hw ht hmem⟩)

end Share.Step

/-- Another tab is made active only where this is noted for the bar. -/
theorem Session.step_active (s : Session) (m : Move) :
    (s.step m).panel.active = s.panel.active ∨ (s.step m).panel.barChanged = true := by
  cases m with
  | receive c => exact (s.panel.dispatch_moves c).active
  | settle place done => exact .inl (s.panel.active_apply done)
  | close => exact .inl rfl

/-- What every move of a session on a panel keeps. -/
structure Course.InStep (p : Panel) (now : Time.Instant) (x : Course) : Prop where
  ids : x.session.panel.tabs.map Tab.id = p.tabs.map Tab.id
  /-- The session began with the bar and all tabs. -/
  opening : p.bar :: p.tabs.map (fun t => .render (t.rendering now)) <+: x.frames
  bar : Frame.lastBar? x.frames = some x.session.panel.bar
  /-- The load of a tab that began last is in flight, or the view holds the tab. -/
  shown : ∀ i t, x.session.panel.tabs[i]? = some t →
    (∃ daemon queries, .load i t.status.issued daemon queries ∈ x.inFlightAt i) ∨
      Frame.lastRendering? t.id x.frames = some (t.rendering now)

namespace Course.InStep

variable {p : Panel} {now : Time.Instant} {x : Course}

/-- The frames at the beginning of a session. -/
theorem frames_first (hids : (p.tabs.map Tab.id).Nodup) :
    (first p now).frames = p.bar :: p.tabs.map fun t => .render (t.rendering now) := by
  have hrenders : (p.tabs.filterMap fun t => (p.render? t.id now).map Frame.render) =
      p.tabs.map fun t => .render (t.rendering now) := by
    rw [List.filterMap_eq_map_iff_forall_eq_some]
    intro t ht
    rw [render?_id hids ht, Option.map_some]
  simp [Course.first, start, hrenders]

/-- The beginning of a session. -/
theorem first (hids : (p.tabs.map Tab.id).Nodup) : InStep p now (first p now) where
  ids := by simp [Course.first, start, beginAll_eq]
  opening := ⟨[], by rw [List.append_nil, frames_first hids]⟩
  bar := by
    have hnone : (p.tabs.map fun t => Frame.render (t.rendering now)).filter Frame.isBar = [] := by
      simp [Frame.isBar]
    have hbar : (Course.first p now).session.panel.bar = p.bar := by
      simp [Course.first, start, beginAll_eq, Panel.bar]
    rw [frames_first hids, hbar, Frame.lastBar?, List.filter_cons_of_pos rfl, hnone]
    rfl
  -- Every load has just begun, so no tab has to be shown as it is.
  shown i t ht := by
    obtain ⟨u, -, hu⟩ := share?_first (share?_of_tab ht)
    obtain ⟨rfl, hfly, -⟩ := Share.mk.inj hu
    rw [hfly]
    exact .inl ⟨u.daemon, u.queries, by simp [Tab.loadWork]⟩

/-- What is sent is no longer to be sent. -/
theorem panel_after (x : Course) (now : Time.Instant) (m : Move) :
    (x.after now m).session.panel =
      { (x.session.step m).panel with signals := [], barChanged := false } := by
  rw [session_after, flush_fst]

/-- No tab comes or goes, and none changes its id, at a move. -/
theorem ids_after (h : InStep p now x) {m : Move} (ha : x.session.Allows m) :
    (x.after now m).session.panel.tabs.map Tab.id = p.tabs.map Tab.id := by
  rw [← h.ids]
  refine map_tabs_after ha fun i s s' hstep => ?_
  rw [Tab.id, hstep.identity_eq, Tab.id]

/-- After a move the view holds the bar as it is. -/
theorem bar_after (h : InStep p now x) {m : Move} (ha : x.session.Allows m) :
    Frame.lastBar? (x.after now m).frames = some (x.after now m).session.panel.bar := by
  rw [x.frames_after, lastBar?_flush]
  split
  · -- Nothing is sent, so neither a badge nor the active tab has changed.
    rename_i hquiet
    have hbuttons : (x.after now m).session.panel.tabs.map
          (fun t => Frame.Summary.mk t.identity t.badge) =
        x.session.panel.tabs.map fun t => ⟨t.identity, t.badge⟩ := by
      refine map_tabs_after ha fun i s s' hstep => ?_
      rw [hquiet.1] at hstep
      rw [hstep.identity_eq, hstep.badge_eq]
    have hactive : (x.after now m).session.panel.active = x.session.panel.active := by
      rw [panel_after]
      exact (x.session.step_active m).resolve_right (by simp [hquiet.2])
    rw [h.bar, Panel.bar, Panel.bar, hbuttons, hactive]
  · rw [panel_after]
    rfl

/-- After a move the view holds every tab as it is of which no load is in flight. -/
theorem shown_after (h : InStep p now x) (hids : (p.tabs.map Tab.id).Nodup) {m : Move}
    (ha : x.session.Allows m) (i : Nat) (t : Tab)
    (ht : (x.after now m).session.panel.tabs[i]? = some t) :
    (∃ daemon queries, .load i t.status.issued daemon queries ∈ (x.after now m).inFlightAt i) ∨
      Frame.lastRendering? t.id (x.after now m).frames = some (t.rendering now) := by
  obtain ⟨s, hs, hstep⟩ := share_of_after ha (share?_of_tab ht)
  have hmem : t ∈ (x.session.step m).panel.tabs := by
    rw [panel_after] at ht
    exact List.mem_of_getElem? ht
  have hnodup : ((x.session.step m).panel.tabs.map Tab.id).Nodup := by
    have hsame : (x.after now m).session.panel.tabs.map Tab.id = p.tabs.map Tab.id :=
      h.ids_after ha
    rw [panel_after] at hsame
    rwa [hsame]
  have hid : t.id = s.tab.id := by
    rw [Tab.id, Tab.id, ← hstep.identity_eq]
  rw [x.frames_after, lastRendering?_flush hnodup hmem, hid]
  -- Either a load is in flight, or the tab is sent, or it is as it was sent before.
  rcases hstep.shown now with hfly | hsignal | ⟨hsame, hkeep⟩
  · exact .inl hfly
  · exact .inr (if_pos hsignal)
  · obtain ⟨htab, hwork, -⟩ := share?_eq_some.mp hs
    rcases h.shown i s.tab htab with ⟨daemon, queries, hfly⟩ | hold
    · exact .inl ⟨daemon, queries, hkeep daemon queries (hwork ▸ hfly)⟩
    · -- Whether or not the tab is sent again, the view holds it as it is.
      rw [hold, ← hsame, ite_self]
      exact .inr rfl

/-- A move keeps the view in step. -/
theorem after (h : InStep p now x) (hids : (p.tabs.map Tab.id).Nodup) {m : Move}
    (ha : x.session.Allows m) : InStep p now (x.after now m) where
  ids := h.ids_after ha
  opening := h.opening.trans (x.frames_after now m ▸ List.prefix_append ..)
  bar := h.bar_after ha
  shown := h.shown_after hids ha

end Course.InStep

/-- What is sent in a session tells what the panel is. It begins with the bar and all tabs in order;
    then the view holds the bar as it is, and every tab as it is of which no load is in flight. When
    the session is over, the view holds all tabs as they are. -/
theorem frames_tell_panel {p : Panel} (hids : (p.tabs.map Tab.id).Nodup) {now : Time.Instant}
    {x : Course} (hx : ReflTransGen (Course.NextAt now) (Course.first p now) x) :
    (p.bar :: p.tabs.map (fun t => .render (t.rendering now)) <+: x.frames) ∧
    Frame.lastBar? x.frames = some x.session.panel.bar ∧
    (∀ i t, x.session.panel.tabs[i]? = some t → (∀ w ∈ x.inFlightAt i, w.isLoad = false) →
      x.session.panel.render? t.id now = some (t.rendering now) ∧
      Frame.lastRendering? t.id x.frames = some (t.rendering now)) ∧
    (x.Over → ∀ t ∈ x.session.panel.tabs,
      Frame.lastRendering? t.id x.frames = some (t.rendering now)) := by
  -- The frames are in step with the panel after every move.
  have hstep : Course.InStep p now x := by
    induction hx with
    | refl => exact .first hids
    | tail _ hnext ih =>
      obtain ⟨m, -, ha⟩ := hnext
      exact ih.after hids ha
  have hshown : ∀ i t, x.session.panel.tabs[i]? = some t →
      (∀ w ∈ x.inFlightAt i, w.isLoad = false) →
      Frame.lastRendering? t.id x.frames = some (t.rendering now) := by
    intro i t ht hdrained
    rcases hstep.shown i t ht with ⟨daemon, queries, hfly⟩ | hshown
    · simpa [Work.isLoad] using hdrained _ hfly
    · exact hshown
  refine ⟨hstep.opening, hstep.bar, fun i t ht hdrained => ⟨?_, hshown i t ht hdrained⟩, ?_⟩
  · exact render?_id (hstep.ids ▸ hids) (List.mem_of_getElem? ht)
  · rintro ⟨-, hfly⟩ t ht
    obtain ⟨i, ht⟩ := List.mem_iff_getElem?.mp ht
    exact hshown i t ht (by simp [Course.inFlightAt, hfly])

/-- Another tab is made active, no more commands come, and then one load brings something and one
    fails. -/
theorem frames_tell_panel_at_end :
    let p : Panel := .ofTabs [.new .cron 3 20, .new .context 3 20]
    let select : Command := { name := "selectTab", arguments := [("tab", .string "context")] }
    let report (t : Tab) (r : Reply) : Tab.Report := ⟨t.queries.map fun q => ⟨q.method, r⟩⟩
    let x := (Course.first p ⟨0, 0⟩).follow ⟨0, 0⟩
      [ .receive select, .close
      , .settle 1 (.loaded 1 1 (report (.new .context 3 20) .done))
      , .settle 0 (.loaded 0 1 (report (.new .cron 3 20) (.failure "refused"))) ]
    (p.tabs.map Tab.id).Nodup ∧ x.Over ∧
      Frame.lastBar? x.frames = some x.session.panel.bar ∧
      ∀ t ∈ x.session.panel.tabs,
        Frame.lastRendering? t.id x.frames = some (t.rendering ⟨0, 0⟩) := by
  intro p select report x
  have hids : (p.tabs.map Tab.id).Nodup := by decide +kernel
  have hx : ReflTransGen (Course.NextAt ⟨0, 0⟩) (Course.first p ⟨0, 0⟩) x :=
    Course.reaches_follow (by decide +kernel)
  have hover : x.Over := ⟨by decide +kernel, List.isEmpty_iff.mp (by decide +kernel)⟩
  obtain ⟨-, hbar, -, hshown⟩ := frames_tell_panel hids hx
  exact ⟨hids, hover, hbar, hshown hover⟩

end Dashboard
