import Dashboard.Proofs.PanelSteps
/-!
# What a session is to one tab

The tabs of a session do not disturb each other. What concerns one of them, the tab itself, its work
in flight and what happened to it, goes on by steps of its own.

* `Share` — what a session is to the tab at a place, `Course.share?` — read off a course.
* `Share.Step` — all that a move can be to one tab.
* `share_after` — every move of a session is such a step to every tab.
-/

namespace Dashboard

open Panel Session

/-- What a session is to one tab. -/
@[ext] structure Share where
  tab : Tab
  inFlight : List Work
  log : List Event

/-- What the course of a session is to the tab at a place. -/
def Course.share? (x : Course) (i : Nat) : Option Share :=
  x.session.panel.tabs[i]?.map fun tab => ⟨tab, x.inFlightAt i, x.logAt i⟩

/-- The work of loading a tab. -/
def Tab.loadWork (t : Tab) (i : Nat) : Work := .load i t.begin.1 t.daemon t.queries

/-- What a move can be to the tab at a place. `signals` are the requests to be drawn again that the
    move leaves. -/
inductive Share.Step (i : Nat) (signals : List String) : Share → Share → Prop where
  /-- Nothing. -/
  | rest {s : Share} : Step i signals s s
  /-- A mutation starts. -/
  | asks {s : Share} {m : Tab.Mutation} (hm : m.daemon = s.tab.daemon) :
      Step i signals s
        ⟨s.tab, s.inFlight ++ [.change i m], s.log ++ [.started (.change i m)]⟩
  /-- The tab asks to be drawn again. -/
  | redraw {s : Share} {t : Tab} (ha : s.tab.Alike t) (hs : s.tab.id ∈ signals) :
      Step i signals s { s with tab := t }
  /-- A load begins. -/
  | reload {s : Share} {t : Tab} (ha : s.tab.Alike t) :
      Step i signals s
        ⟨t.begin.2, s.inFlight ++ [t.loadWork i], s.log ++ [.started (t.loadWork i)]⟩
  /-- A load ends too late. -/
  | stale {s : Share} {before after : List Work} {ticket : Nat} {d : Daemon}
      {queries : List Tab.Query} {report : Tab.Report}
      (hw : s.inFlight = before ++ .load i ticket d queries :: after)
      (ht : ticket ≠ s.tab.status.issued) :
      Step i signals s
        ⟨s.tab, before ++ after, s.log ++ [.ended (.loaded i ticket report) false]⟩
  /-- The load that began last ends. -/
  | apply {s : Share} {before after : List Work} {d : Daemon} {queries : List Tab.Query}
      {report : Tab.Report}
      (hw : s.inFlight = before ++ .load i s.tab.status.issued d queries :: after)
      (hq : report.outcomes.map (·.method) = queries.map (·.method))
      (hs : s.tab.id ∈ signals) :
      Step i signals s
        ⟨(s.tab.complete s.tab.status.issued report).2, before ++ after,
          s.log ++ [.ended (.loaded i s.tab.status.issued report) true]⟩
  /-- A mutation ends, and a load begins. -/
  | change {s : Share} {before after : List Work} {m : Tab.Mutation} {reply : Reply}
      (hw : s.inFlight = before ++ .change i m :: after) :
      Step i signals s
        ⟨s.tab.begin.2, before ++ after ++ [s.tab.loadWork i],
          s.log ++ [.ended (.changed i reply) true, .started (s.tab.loadWork i)]⟩

/-- The load that began last stays in flight when another one ends. -/
theorem latest_stays {work before after : List Work} {i ticket issued : Nat} {d d' : Daemon}
    {queries queries' : List Tab.Query} (hw : work = before ++ .load i ticket d queries :: after)
    (ht : ticket ≠ issued) (hmem : .load i issued d' queries' ∈ work) :
    .load i issued d' queries' ∈ before ++ after := by
  rw [hw] at hmem
  rcases List.mem_append.mp hmem with hmem | hmem
  · exact List.mem_append_left _ hmem
  · rcases List.mem_cons.mp hmem with heq | hmem
    · exact absurd (Work.load.inj heq).2.1.symm ht
    · exact List.mem_append_right _ hmem

/-! ### What is sent changes nothing -/

/-- A move is a step of the panel and the frames that are then due. -/
theorem Session.session_after (s : Session) (now : Time.Instant) (m : Move) :
    (s.after now m).session = ((s.step m).flush now).1 := by
  cases m <;> rfl

/-- The session of a course after a move. -/
theorem Course.session_after (x : Course) (now : Time.Instant) (m : Move) :
    (x.after now m).session = ((x.session.step m).flush now).1 :=
  x.session.session_after now m

theorem Course.frames_after (x : Course) (now : Time.Instant) (m : Move) :
    (x.after now m).frames = x.frames ++ ((x.session.step m).flush now).2 := by
  cases m <;> rfl

theorem Course.log_after (x : Course) (now : Time.Instant) (m : Move) :
    (x.after now m).log = x.log ++ x.session.events m := by
  cases m <;> rfl

/-- After what is to be sent is sent, nothing asks to be drawn again. -/
@[simp] theorem Session.flush_fst (s : Session) (now : Time.Instant) :
    (s.flush now).1 = { s with panel := { s.panel with signals := [], barChanged := false } } := by
  unfold flush takeSignals
  dsimp only
  split
  · rfl
  · rename_i h
    simp only [Bool.or_eq_true, not_or, Bool.not_eq_true] at h
    rw [h.2]

/-! ### The share of one tab -/

variable {x y : Course} {i : Nat} {s : Share}

/-- The share of a tab is what concerns its place. -/
theorem Course.share?_eq_some :
    x.share? i = some s ↔
      x.session.panel.tabs[i]? = some s.tab ∧ x.inFlightAt i = s.inFlight ∧ x.logAt i = s.log := by
  constructor
  · intro h
    obtain ⟨t, ht, rfl⟩ := Option.map_eq_some_iff.mp h
    exact ⟨ht, rfl, rfl⟩
  · rintro ⟨ht, hw, hl⟩
    simp [share?, ht, hw, hl]

/-- Where there is a tab it has a share. -/
theorem Course.share?_of_tab {t : Tab} (ht : x.session.panel.tabs[i]? = some t) :
    x.share? i = some ⟨t, x.inFlightAt i, x.logAt i⟩ :=
  share?_eq_some.mpr ⟨ht, rfl, rfl⟩

/-- The share of a tab after a move, before anything is sent. -/
theorem Course.share?_after {now : Time.Instant} {m : Move} {t : Tab}
    (ht : (x.session.step m).panel.tabs[i]? = some t) :
    (x.after now m).share? i = some
      ⟨t, (x.session.step m).inFlight.filter (·.index == i),
        x.logAt i ++ (x.session.events m).filter (·.concerns i)⟩ := by
  rw [share?_eq_some]
  refine ⟨?_, ?_, ?_⟩
  · simpa [session_after] using ht
  · simp [inFlightAt, session_after]
  · simp [after, logAt]

/-- What starts concerns the tab that the work is for. -/
theorem filter_started (work : List Work) :
    (work.map Event.started).filter (·.concerns i) =
      (work.filter (·.index == i)).map Event.started := by
  rw [List.filter_map]
  rfl

/-- What has a place in a list stands between others. -/
theorem split_of_getElem? {α : Type} {l : List α} {place : Nat} {a : α}
    (ha : l[place]? = some a) :
    ∃ before after, l = before ++ a :: after ∧ before.length = place := by
  obtain ⟨hlt, rfl⟩ := List.getElem?_eq_some_iff.mp ha
  refine ⟨l.take place, l.drop (place + 1), ?_, List.length_take_of_le (Nat.le_of_lt hlt)⟩
  rw [List.getElem_cons_drop, List.take_append_drop]

/-- Without it the others are left. -/
theorem eraseIdx_split {α : Type} (before after : List α) (a : α) :
    (before ++ a :: after).eraseIdx before.length = before ++ after := by
  rw [List.eraseIdx_append_of_length_le (Nat.le_refl _), Nat.sub_self, List.eraseIdx_cons_zero]

/-- The share of a tab at the beginning of a session. -/
theorem share?_first {p : Panel} {now : Time.Instant}
    (hs : (Course.first p now).share? i = some s) :
    ∃ t, p.tabs[i]? = some t ∧
      s = ⟨t.begin.2, [t.loadWork i], [.started (t.loadWork i)]⟩ := by
  obtain ⟨ht, hw, hl⟩ := Course.share?_eq_some.mp hs
  have hlt : i < p.tabs.length := by
    simpa [Course.first, start, beginAll_eq] using (List.getElem?_eq_some_iff.mp ht).1
  refine ⟨p.tabs[i], List.getElem?_eq_getElem hlt, Share.ext ?_ ?_ ?_⟩
  · simpa [Course.first, start, beginAll_eq, hlt] using ht.symm
  · rw [← hw]
    exact filter_loads_at (List.getElem?_eq_getElem hlt)
  · rw [← hl]
    simp only [Course.first, start, Course.logAt, filter_started,
      filter_loads_at (List.getElem?_eq_getElem hlt)]
    rfl

/-! ### Every move is a step to every tab -/

/-- What a command is to one tab. -/
theorem share_receive (now : Time.Instant) (c : Command) (hs : x.share? i = some s) :
    ∃ s', (x.after now (.receive c)).share? i = some s' ∧
      Share.Step i (x.session.step (.receive c)).panel.signals s s' := by
  obtain ⟨ht, hw, hl⟩ := Course.share?_eq_some.mp hs
  obtain ⟨t', ht', hturn⟩ := (x.session.panel.dispatch_moves c).turn i s.tab ht
  refine ⟨_, Course.share?_after (m := .receive c) ht', ?_⟩
  have hfly : (x.session.step (.receive c)).inFlight.filter (·.index == i) =
      s.inFlight ++ (x.session.panel.dispatch c).work.filter (·.index == i) := by
    simp [step, ← hw, Course.inFlightAt]
  have hlog : (x.session.events (.receive c)).filter (·.concerns i) =
      ((x.session.panel.dispatch c).work.filter (·.index == i)).map .started := by
    rw [← filter_started]
    simp [events, Event.concerns]
  rw [hfly, hlog, hl]
  -- Of the work that the command makes, only what is for this tab is seen.
  generalize (x.session.panel.dispatch c).work.filter (·.index == i) = work at hturn
  cases hturn with
  | rest => simpa using Share.Step.rest
  | asks hm => exact .asks hm
  | redraw ha hs => simpa using! Share.Step.redraw ha hs
  | reload ha => exact .reload ha

/-- What is left in flight for a tab when a piece of work for it is complete. -/
theorem inFlight_erase_own {place : Nat} {w : Work} (hp : x.session.inFlight[place]? = some w)
    (hw : w.index = i) :
    ∃ before after, x.inFlightAt i = before ++ w :: after ∧
      (x.session.inFlight.eraseIdx place).filter (·.index == i) = before ++ after := by
  obtain ⟨before, after, hsplit, rfl⟩ := split_of_getElem? hp
  refine ⟨before.filter (·.index == i), after.filter (·.index == i), ?_, ?_⟩
  · simp [Course.inFlightAt, hsplit, hw]
  · rw [hsplit, eraseIdx_split, List.filter_append]

/-- All is left in flight for a tab when a piece of work for another one is complete. -/
theorem inFlight_erase_other {place : Nat} {w : Work} (hp : x.session.inFlight[place]? = some w)
    (hw : w.index ≠ i) :
    (x.session.inFlight.eraseIdx place).filter (·.index == i) = x.inFlightAt i := by
  obtain ⟨before, after, hsplit, rfl⟩ := split_of_getElem? hp
  rw [Course.inFlightAt, hsplit, eraseIdx_split]
  simp [hw]

/-- The share of a tab after the end of a piece of work. -/
theorem Course.share?_settle (now : Time.Instant) (place : Nat) {done : Completion} {t : Tab}
    (ht : (x.session.panel.apply done).panel.tabs[i]? = some t) :
    let work := (x.session.panel.apply done).work.filter (·.index == i)
    (x.after now (.settle place done)).share? i = some
      ⟨t, (x.session.inFlight.eraseIdx place).filter (·.index == i) ++ work,
        x.logAt i ++
          ([.ended done (x.session.panel.takes done)].filter (·.concerns i) ++
            work.map .started)⟩ := by
  rw [share?_after (m := .settle place done) ht]
  refine congrArg some (Share.ext rfl ?_ ?_)
  · dsimp only
    rw [step, List.filter_append]
  · dsimp only
    rw [← filter_started, ← List.filter_append]
    rfl

/-- What comes of work is for the tab that the work was for. -/
theorem Panel.Work.Yields.index_eq {w : Work} {done : Completion} (h : w.Yields done) :
    done.index = w.index := by
  cases h <;> rfl

/-- The share of a tab stays as it is at the end of work for another tab. -/
theorem share_other (now : Time.Instant) {place : Nat} {w : Work} {done : Completion}
    (hp : x.session.inFlight[place]? = some w) (hy : w.Yields done) (hw : w.index ≠ i)
    (hs : x.share? i = some s) : (x.after now (.settle place done)).share? i = some s := by
  obtain ⟨ht, hfly, hlog⟩ := Course.share?_eq_some.mp hs
  have hdone : done.index ≠ i := by rwa [hy.index_eq]
  obtain ⟨htab, hwork⟩ := apply_other (p := x.session.panel) hdone
  rw [Course.share?_settle now place (htab.trans ht), hwork, inFlight_erase_other hp hw]
  refine congrArg some (Share.ext rfl ?_ ?_)
  · simp [hfly]
  · simp [← hlog, Event.concerns, hdone]

/-- What the end of a load is to its tab. -/
theorem share_loaded (now : Time.Instant) {place ticket : Nat} {d : Daemon}
    {queries : List Tab.Query} {report : Tab.Report}
    (hp : x.session.inFlight[place]? = some (.load i ticket d queries))
    (hq : report.outcomes.map (·.method) = queries.map (·.method)) (hs : x.share? i = some s) :
    ∃ s', (x.after now (.settle place (.loaded i ticket report))).share? i = some s' ∧
      Share.Step i (x.session.step (.settle place (.loaded i ticket report))).panel.signals
        s s' := by
  obtain ⟨ht, hfly, hlog⟩ := Course.share?_eq_some.mp hs
  obtain ⟨before, after, hsplit, herase⟩ := inFlight_erase_own (i := i) hp rfl
  rw [hfly] at hsplit
  by_cases hk : ticket = s.tab.status.issued
  · subst hk
    obtain ⟨hpanel, hwork⟩ := applyReport_current ht report
    have hlt := (List.getElem?_eq_some_iff.mp ht).1
    have htab : (x.session.panel.apply (.loaded i s.tab.status.issued report)).panel.tabs[i]? =
        some (s.tab.complete s.tab.status.issued report).2 := by
      simp [apply, hpanel, signal, setTab, hlt]
    refine ⟨_, Course.share?_settle now place htab, ?_⟩
    have htakes : x.session.panel.takes (.loaded i s.tab.status.issued report) = true := by
      simp [takes, ht, s.tab.complete_current report]
    simp only [apply, hwork, htakes, herase, hlog, List.filter_nil, List.map_nil, List.append_nil]
    -- The report is applied, so the tab asks to be drawn again.
    have hsignal : s.tab.id ∈ (x.session.step
        (.settle place (.loaded i s.tab.status.issued report))).panel.signals := by
      simp [step, apply, hpanel, signal]
    simpa [Event.concerns, Completion.index] using Share.Step.apply hsplit hq hsignal
  · obtain ⟨hpanel, hwork⟩ := applyReport_stale ht hk report
    have htab : (x.session.panel.apply (.loaded i ticket report)).panel.tabs[i]? = some s.tab := by
      simp [apply, hpanel, ht]
    refine ⟨_, Course.share?_settle now place htab, ?_⟩
    have htakes : x.session.panel.takes (.loaded i ticket report) = false := by
      simp [takes, ht, s.tab.complete_stale hk report]
    simp only [apply, hwork, htakes, herase, hlog, List.filter_nil, List.map_nil, List.append_nil]
    simpa [Event.concerns, Completion.index] using Share.Step.stale hsplit hk

/-- What the end of a mutation is to its tab. -/
theorem share_changed (now : Time.Instant) {place : Nat} {m : Tab.Mutation} {reply : Reply}
    (hp : x.session.inFlight[place]? = some (.change i m)) (hs : x.share? i = some s) :
    ∃ s', (x.after now (.settle place (.changed i reply))).share? i = some s' ∧
      Share.Step i (x.session.step (.settle place (.changed i reply))).panel.signals s s' := by
  obtain ⟨ht, hfly, hlog⟩ := Course.share?_eq_some.mp hs
  obtain ⟨before, after, hsplit, herase⟩ := inFlight_erase_own (i := i) hp rfl
  rw [hfly] at hsplit
  have hlt := (List.getElem?_eq_some_iff.mp ht).1
  have htab : (x.session.panel.apply (.changed i reply)).panel.tabs[i]? = some s.tab.begin.2 := by
    simp [apply, applyChange, beginLoad_of_some ht, setTab, hlt]
  refine ⟨_, Course.share?_settle now place htab, ?_⟩
  have hwork : (x.session.panel.apply (.changed i reply)).work = [s.tab.loadWork i] := by
    simp [apply, applyChange, beginLoad_of_some ht, Tab.loadWork]
  rw [hwork, herase, hlog]
  simpa [takes, Event.concerns, Completion.index, Work.index, Tab.loadWork] using!
    Share.Step.change hsplit

/-- What a move is to one tab. -/
theorem share_after (now : Time.Instant) {m : Move} (ha : x.session.Allows m)
    (hs : x.share? i = some s) :
    ∃ s', (x.after now m).share? i = some s' ∧
      Share.Step i (x.session.step m).panel.signals s s' := by
  cases m with
  | receive c => exact share_receive now c hs
  | close =>
    obtain ⟨ht, hw, hl⟩ := Course.share?_eq_some.mp hs
    refine ⟨s, ?_, .rest⟩
    rw [Course.share?_after (m := .close) ht]
    exact congrArg some (Share.ext rfl hw (by simpa [events] using hl))
  | settle place done =>
    obtain ⟨w, hp, hy⟩ := ha
    -- What comes of the work concerns the tab only if the work was for it.
    by_cases hw : w.index = i
    · cases hy with
      | load hq =>
        obtain rfl := hw
        exact share_loaded now hp hq hs
      | change =>
        obtain rfl := hw
        exact share_changed now hp hs
    · exact ⟨s, share_other now hp hy hw hs, .rest⟩

/-! ### What all steps keep -/

/-- No tab comes or goes at a move. -/
theorem Course.length_after (x : Course) (now : Time.Instant) (m : Move) :
    (x.after now m).session.panel.tabs.length = x.session.panel.tabs.length := by
  have h : (x.session.step m).panel.tabs.length = x.session.panel.tabs.length := by
    cases m with
    | receive c => exact (x.session.panel.dispatch_moves c).length
    | settle place done => exact length_apply x.session.panel done
    | close => rfl
  simpa [session_after] using h

/-- Before a move a tab had its share if it has one after it. -/
theorem Course.share?_before {now : Time.Instant} {m : Move}
    (hs : (x.after now m).share? i = some s) : ∃ s₀, x.share? i = some s₀ := by
  have hlt := (List.getElem?_eq_some_iff.mp (share?_eq_some.mp hs).1).1
  rw [length_after] at hlt
  exact Option.isSome_iff_exists.mp (by simp [share?, hlt])

/-- The share of a tab after a move comes from its share before it by a step. -/
theorem share_of_after {now : Time.Instant} {m : Move} (ha : x.session.Allows m)
    (hs : (x.after now m).share? i = some s) :
    ∃ s₀, x.share? i = some s₀ ∧ Share.Step i (x.session.step m).panel.signals s₀ s := by
  obtain ⟨s₀, hs₀⟩ := Course.share?_before hs
  obtain ⟨s', hs', hstep⟩ := share_after now ha hs₀
  obtain rfl : s' = s := Option.some.inj (hs'.symm.trans hs)
  exact ⟨s₀, hs₀, hstep⟩

/-- What no step changes of a tab stays as it is for all tabs. -/
theorem map_tabs_after {α : Type} {f : Tab → α} {now : Time.Instant} {m : Move}
    (ha : x.session.Allows m)
    (hf : ∀ i s s', Share.Step i (x.session.step m).panel.signals s s' → f s'.tab = f s.tab) :
    (x.after now m).session.panel.tabs.map f = x.session.panel.tabs.map f := by
  refine List.ext_getElem (by simp [Course.length_after]) fun i hi hi' => ?_
  rw [List.length_map] at hi
  obtain ⟨s₀, hs₀, hstep⟩ := share_of_after ha (Course.share?_of_tab (List.getElem?_eq_getElem hi))
  have htab := (List.getElem?_eq_some_iff.mp (Course.share?_eq_some.mp hs₀).1).2
  rw [List.getElem_map, List.getElem_map, htab]
  exact hf i _ _ hstep

end Dashboard
