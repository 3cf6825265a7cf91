import Dashboard.Proofs.Freshness
/-!
# What loads ask

What a load asks is settled when it begins. A tab does not come to ask anything else without
beginning a load, so the load that began last asks what the tab asks.

* `Tab.latestLoad` — the load of a tab that began last.
* `Share.Step.log_cases` — what a step adds to the log of a tab.
* `Course.load_moment` — every load in the log began at some moment, by what the tab was then.
* `Tab.Becomes.queries_eq` — what a tab asks changes only where a load begins.
* `latest_load_asks` — what the load asks that began last.
* `drained_applied_last` — once no load is in flight, it is the last one that was applied.
-/

namespace Dashboard

open Panel Session Relation

/-- The load of a tab that began last. -/
def Tab.latestLoad (t : Tab) (i : Nat) : Work := .load i t.status.issued t.daemon t.queries

/-- The load that has just begun is the latest. -/
theorem Tab.latestLoad_begin (t : Tab) (i : Nat) : t.begin.2.latestLoad i = t.loadWork i := by
  rw [latestLoad, loadWork, issued_begin, begin_fst, daemon_begin, queries_begin]

/-! ### The log of a tab -/

variable {i : Nat} {signals : List String} {s s' : Share}

/-- What a step adds to the log of a tab: a load that begins comes last. -/
theorem Share.Step.log_cases (h : Share.Step i signals s s') :
    ∃ idle, (∀ e ∈ idle, e.startsLoad = false) ∧
      (s'.tab.status.issued = s.tab.status.issued ∧ s'.log = s.log ++ idle ∨
        s'.tab.status.issued = s.tab.status.issued + 1 ∧
          s'.log = s.log ++ idle ++ [.started (s'.tab.latestLoad i)]) := by
  have hidle {e : Event} (he : e.startsLoad = false) : ∀ f ∈ [e], f.startsLoad = false := by
    intro f hf
    rwa [List.mem_singleton.mp hf]
  -- A load begins with a reload and with the end of a mutation, and with no other step.
  cases h with
  | rest => exact ⟨[], nofun, .inl ⟨rfl, (List.append_nil _).symm⟩⟩
  | asks hm => exact ⟨_, hidle rfl, .inl ⟨rfl, rfl⟩⟩
  | redraw ha hs => exact ⟨[], nofun, .inl ⟨ha.issued_eq, (List.append_nil _).symm⟩⟩
  | @reload t ha =>
    refine ⟨[], nofun, .inr ⟨?_, ?_⟩⟩
    · rw [Tab.issued_begin, ha.issued_eq]
    · rw [Tab.latestLoad_begin, List.append_nil]
  | stale hw ht => exact ⟨_, hidle rfl, .inl ⟨rfl, rfl⟩⟩
  | apply hw hq hs => exact ⟨_, hidle rfl, .inl ⟨s.tab.issued_complete _ _, rfl⟩⟩
  | @change before after m reply hw =>
    refine ⟨[.ended (.changed i reply) true], hidle rfl, .inr ⟨s.tab.issued_begin, ?_⟩⟩
    simp only [Tab.latestLoad_begin, List.append_assoc, List.singleton_append]

section

variable {α : Type} {l added before after : List α} {a b : α}

/-- What stands in a list and is none of what was added stood there before. -/
theorem split_of_append (h : l ++ added = before ++ a :: after) (ha : a ∉ added) :
    ∃ earlier, l = before ++ a :: earlier := by
  rcases List.append_eq_append_iff.mp h with ⟨rest, -, hrest⟩ | ⟨rest, rfl, hrest⟩
  · exact absurd (hrest ▸ List.mem_append_right rest List.mem_cons_self) ha
  · cases rest with
    | nil =>
      have hmem : a ∈ [] ++ added := hrest ▸ List.mem_cons_self
      exact absurd hmem ha
    | cons b rest =>
      obtain ⟨rfl, -⟩ := List.cons.inj hrest
      exact ⟨rest, rfl⟩

/-- What stands in a list to which one thing was added is that, or it stood there before. -/
theorem split_of_snoc (h : l ++ [b] = before ++ a :: after) :
    (l = before ∧ b = a ∧ after = []) ∨
      ∃ earlier, l = before ++ a :: earlier ∧ after = earlier ++ [b] := by
  rcases List.eq_nil_or_concat after with rfl | ⟨earlier, c, rfl⟩
  · obtain ⟨hl, hb⟩ := List.append_inj' h rfl
    exact .inl ⟨hl, (List.cons.inj hb).1, rfl⟩
  · rw [List.concat_eq_append, ← List.cons_append, ← List.append_assoc] at h
    obtain ⟨hl, hb⟩ := List.append_inj' h rfl
    obtain rfl : b = c := (List.cons.inj hb).1
    exact .inr ⟨earlier, hl, List.concat_eq_append⟩

end

/-- Every load in the log of a tab began at some moment, and it asks what the tab asked then. -/
theorem Course.load_moment {p : Panel} {x y : Course} (hx : Opens p x)
    (hxy : ReflTransGen Next x y) {t : Tab} (ht : y.session.panel.tabs[i]? = some t)
    {before after : List Event} {w : Work} (hw : w.isLoad = true)
    (hlog : y.logAt i = before ++ .started w :: after) :
    ∃ v t', ReflTransGen Next x v ∧ ReflTransGen Next v y ∧
      v.session.panel.tabs[i]? = some t' ∧ v.logAt i = before ++ [.started w] ∧
        w = t'.latestLoad i := by
  induction hxy generalizing t after with
  | refl =>
    cases hx with
    | idle => exact absurd hlog (by simp [Course.idle, logAt])
    | first now =>
      obtain ⟨u, -, hu⟩ := share?_first (share?_of_tab ht)
      obtain ⟨rfl, -, hl⟩ := Share.mk.inj hu
      -- The log holds nothing but the first load.
      rw [hl, ← List.nil_append [_]] at hlog
      obtain ⟨rfl, hstart, -⟩ | ⟨_, hnone, -⟩ := split_of_snoc hlog
      · obtain rfl := Event.started.inj hstart
        exact ⟨_, _, .refl, .refl, ht, hl, (u.latestLoad_begin i).symm⟩
      · exact absurd hnone (by simp)
  | @tail y z hxy hnext ih =>
    obtain ⟨now, m, hl, ha⟩ := hnext
    obtain ⟨s₀, hs₀, hstep⟩ := share_of_after ha (share?_of_tab ht)
    obtain ⟨ht₀, -, hlog₀⟩ := share?_eq_some.mp hs₀
    have hnext : Next y (y.after now m) := ⟨now, .move m hl ha⟩
    obtain ⟨idle, hidle, hadded⟩ := hstep.log_cases
    have hnot : Event.started w ∉ idle := fun hmem => by
      cases hw.symm.trans (hidle _ hmem)
    -- A load that began before the move has its moment by induction.
    have hearlier {earlier : List Event} (h : s₀.log ++ idle = before ++ .started w :: earlier) :
        ∃ v t', ReflTransGen Next x v ∧ ReflTransGen Next v (y.after now m) ∧
          v.session.panel.tabs[i]? = some t' ∧ v.logAt i = before ++ [.started w] ∧
            w = t'.latestLoad i := by
      obtain ⟨earlier, hbefore⟩ := split_of_append h hnot
      obtain ⟨v, t', hxv, hvy, hrest⟩ := ih ht₀ (hlog₀.trans hbefore)
      exact ⟨v, t', hxv, hvy.tail hnext, hrest⟩
    rcases hadded with ⟨-, hlog'⟩ | ⟨-, hlog'⟩
    · exact hearlier (hlog'.symm.trans hlog)
    · rcases split_of_snoc (hlog'.symm.trans hlog) with ⟨hbefore, hstart, -⟩ | ⟨_, hbefore, -⟩
      · -- The load begins with the move.
        obtain rfl := Event.started.inj hstart
        exact ⟨_, t, hxy.tail hnext, .refl, ht, by rw [← hbefore]; exact hlog', rfl⟩
      · exact hearlier hbefore

/-! ### What the load asks that began last -/

/-- The limit of the job tab changes only by a command that has the tab loaded, to a number that can
    be asked for. -/
theorem Cron.State.historyLimit_react (s : State) (c : Command) :
    (s.react c).1.historyLimit = s.historyLimit ∨
      (∃ n, c.count? "limit" = some n ∧ (s.react c).1.historyLimit = clampLimit n) ∧
        (s.react c).2 = .reload := by
  unfold react
  split
  · exact .inl rfl
  · exact .inl rfl
  · exact .inl rfl
  · exact .inl rfl
  · exact .inl rfl
  · exact .inl rfl
  · -- The one command that sets the limit, if it gives a number.
    split
    · exact .inl rfl
    · rename_i n hn
      exact .inr ⟨⟨n, hn, rfl⟩, rfl⟩

/-- A command that does not have a tab loaded leaves what the tab asks. -/
theorem Tab.queries_react {t : Tab} {c : Command} (h : (t.react c).2 ≠ .reload) :
    (t.react c).1.queries = t.queries := by
  cases t with
  | stats | slop | tools | context => rfl
  | cron s =>
    have hlimit := (s.historyLimit_react c).resolve_right fun hchosen => h hchosen.2
    simp only [react, queries, Cron.State.queries, hlimit]

/-- What a tab asks changes only where a load begins. -/
theorem Tab.Becomes.queries_eq {t t' : Tab} (h : t.Becomes t')
    (hi : t'.status.issued = t.status.issued) : t'.queries = t.queries := by
  cases h with
  | rest => rfl
  | begin => exact t.queries_begin
  | complete ticket report => cases t <;> rfl
  | command c =>
    have hr := t.reacts c
    have hqueries := t.queries_react (c := c)
    unfold after at hi ⊢
    generalize t.react c = answer at hr hqueries hi ⊢
    cases hr with
    | @asks r h => cases r <;> first | rfl | exact h.elim
    | redraw ha => exact hqueries nofun
    | @reload t' ha =>
      -- The ticket would be a new one.
      rw [issued_begin, ha.issued_eq] at hi
      omega

/-- The load in the log that began last asks what the tab asks. -/
def Share.AsksLatest (i : Nat) (s : Share) : Prop :=
  ∀ daemon queries, .started (.load i s.tab.status.issued daemon queries) ∈ s.log →
    queries = s.tab.queries

/-- A step keeps that the latest load asks what the tab asks. -/
theorem Share.Step.asksLatest (h : Share.Step i signals s s') (hb : s.tab.Becomes s'.tab)
    (hf : s.Fresh i) (hs : s.AsksLatest i) : s'.AsksLatest i := by
  intro daemon queries hmem
  obtain ⟨idle, hidle, ⟨hissued, hlog⟩ | ⟨hissued, hlog⟩⟩ := h.log_cases
  · -- No load begins, and nothing changes what the tab asks.
    rw [hlog, hissued] at hmem
    rcases List.mem_append.mp hmem with hmem | hmem
    · rw [hb.queries_eq hissued]
      exact hs daemon queries hmem
    · cases hidle _ hmem
  · rw [hlog] at hmem
    rcases List.mem_append.mp hmem with hmem | hmem
    · -- All tickets in the log are earlier ones.
      rcases List.mem_append.mp hmem with hmem | hmem
      · have hle := hf.ticket_le _ _ _ hmem
        omega
      · cases hidle _ hmem
    · -- The new load is the one that was just added.
      have hload := Event.started.inj (List.mem_singleton.mp hmem)
      exact (Work.load.inj hload).2.2.2

/-- The load of a tab that began last asks what the tab asks. -/
theorem latest_load_asks {p : Panel} {x y : Course} (hx : Course.Opens p x)
    (hxy : ReflTransGen Course.Next x y) {t : Tab} (ht : y.session.panel.tabs[i]? = some t)
    {daemon : Daemon} {queries : List Tab.Query}
    (hmem : .started (.load i t.status.issued daemon queries) ∈ y.logAt i) :
    queries = t.queries := by
  have hboth : Share.Fresh i ⟨t, y.inFlightAt i, y.logAt i⟩ ∧
      Share.AsksLatest i ⟨t, y.inFlightAt i, y.logAt i⟩ :=
    Course.turn_induction (P := fun s => s.Fresh i ∧ s.AsksLatest i)
      (fun t _ => ⟨.new t, nofun⟩)
      (fun _ _ _ hstep hb h => ⟨hstep.fresh h.1, hstep.asksLatest hb h.1 h.2⟩) hx hxy
      (Course.share?_of_tab ht)
  exact hboth.2 daemon queries hmem

/-! ### Which load was applied last -/

/-- The report that was applied last is found first from the end of the log. -/
theorem AppliedLast.find? {ticket : Nat} {report : Tab.Report} {log : List Event}
    (h : AppliedLast i ticket report log) :
    log.reverse.find? Event.appliesLoad = some (.ended (.loaded i ticket report) true) := by
  obtain ⟨before, after, rfl, hafter⟩ := h
  have hnone : after.reverse.find? Event.appliesLoad = none :=
    List.find?_eq_none.mpr fun e he => by simp [hafter e (List.mem_reverse.mp he)]
  rw [List.reverse_append, List.reverse_cons, List.append_assoc, List.find?_append, hnone]
  rfl

/-- All that is in flight for a tab was started, and so was every load that has ended. -/
structure Share.Logged (i : Nat) (s : Share) : Prop where
  inFlight : ∀ w ∈ s.inFlight, .started w ∈ s.log
  ended : ∀ ticket report taken, .ended (.loaded i ticket report) taken ∈ s.log →
    ∃ daemon queries, .started (.load i ticket daemon queries) ∈ s.log

namespace Share.Logged

/-- A piece of work is started. -/
theorem start (h : s.Logged i) (t : Tab) (w : Work) :
    Logged i ⟨t, s.inFlight ++ [w], s.log ++ [.started w]⟩ where
  inFlight v hv := by
    rcases List.mem_append.mp hv with hv | hv
    · exact List.mem_append_left _ (h.inFlight v hv)
    · rw [List.mem_singleton.mp hv]
      exact List.mem_append_right _ List.mem_cons_self
  ended ticket report taken hmem := by
    rcases List.mem_append.mp hmem with hmem | hmem
    · obtain ⟨daemon, queries, hstart⟩ := h.ended ticket report taken hmem
      exact ⟨daemon, queries, List.mem_append_left _ hstart⟩
    · cases List.mem_singleton.mp hmem

/-- A piece of work ends. -/
theorem finish (h : s.Logged i) (t : Tab) {before after : List Work} {w : Work}
    {done : Completion} {taken : Bool} (hw : s.inFlight = before ++ w :: after)
    (hd : ∀ ticket report, done = .loaded i ticket report →
      ∃ daemon queries, w = .load i ticket daemon queries) :
    Logged i ⟨t, before ++ after, s.log ++ [.ended done taken]⟩ where
  inFlight v hv := by
    refine List.mem_append_left _ (h.inFlight v (hw ▸ ?_))
    rcases List.mem_append.mp hv with hv | hv
    · exact List.mem_append_left _ hv
    · exact List.mem_append_right _ (List.mem_cons_of_mem w hv)
  ended ticket report taken' hmem := by
    rcases List.mem_append.mp hmem with hmem | hmem
    · obtain ⟨daemon, queries, hstart⟩ := h.ended ticket report taken' hmem
      exact ⟨daemon, queries, List.mem_append_left _ hstart⟩
    · -- What has ended was in flight.
      obtain ⟨hdone, -⟩ := Event.ended.inj (List.mem_singleton.mp hmem)
      obtain ⟨daemon, queries, rfl⟩ := hd ticket report hdone.symm
      have hfly := h.inFlight _ (hw ▸ List.mem_append_right before List.mem_cons_self)
      exact ⟨daemon, queries, List.mem_append_left _ hfly⟩

end Share.Logged

/-- A step keeps that everything in flight was started. -/
theorem Share.Step.logged (h : Share.Step i signals s s') (hs : s.Logged i) : s'.Logged i := by
  cases h with
  | rest => exact hs
  | asks hm => exact hs.start _ _
  | redraw ha _ => exact ⟨hs.inFlight, hs.ended⟩
  | reload ha => exact hs.start _ _
  | stale hw ht =>
    refine hs.finish _ hw fun ticket report hd => ?_
    obtain ⟨-, rfl, -⟩ := Completion.loaded.inj hd
    exact ⟨_, _, rfl⟩
  | apply hw hq _ =>
    refine hs.finish _ hw fun ticket report hd => ?_
    obtain ⟨-, rfl, -⟩ := Completion.loaded.inj hd
    exact ⟨_, _, rfl⟩
  -- The mutation ends and the load that follows it starts.
  | @change before after m reply hw =>
    have hended : Logged i ⟨s.tab.begin.2, before ++ after,
        s.log ++ [.ended (.changed i reply) true]⟩ := hs.finish _ hw nofun
    simpa only [List.append_assoc, List.singleton_append] using
      hended.start s.tab.begin.2 (s.tab.loadWork i)

/-- What was done before does not matter to the report that was applied last. -/
theorem AppliedLast.after {ticket : Nat} {report : Tab.Report} {log : List Event}
    (h : AppliedLast i ticket report log) (earlier : List Event) :
    AppliedLast i ticket report (earlier ++ log) := by
  obtain ⟨before, after, rfl, hafter⟩ := h
  exact ⟨earlier ++ before, after, (List.append_assoc ..).symm, hafter⟩

/-- Once a tab has no load in flight, the report that was applied last is that of the load that began
    last. -/
theorem drained_applied_last {p : Panel} {x y : Course} (hx : Course.Opens p x)
    (hxy : ReflTransGen Course.Next x y) {t : Tab} (ht : y.session.panel.tabs[i]? = some t)
    (hdrained : ∀ w ∈ y.inFlightAt i, w.isLoad = false) {ticket : Nat} {report : Tab.Report}
    (happlied : AppliedLast i ticket report (y.logAt i)) :
    ticket = t.status.issued ∧
      ∃ daemon queries, .started (.load i ticket daemon queries) ∈ y.logAt i := by
  have hshare := Course.share?_of_tab ht
  have hfresh : Share.Fresh i ⟨t, y.inFlightAt i, y.logAt i⟩ :=
    share_induction Share.Fresh.new (fun _ _ _ hstep => hstep.fresh) hx hxy hshare
  have hlogged : Share.Logged i ⟨t, y.inFlightAt i, y.logAt i⟩ :=
    share_induction (fun _ => ⟨nofun, nofun⟩) (fun _ _ _ hstep => hstep.logged) hx hxy hshare
  have hmem : .ended (.loaded i ticket report) true ∈ y.logAt i :=
    List.mem_reverse.mp (List.mem_of_find?_eq_some happlied.find?)
  obtain ⟨daemon, queries, hstart⟩ := hlogged.ended ticket report true hmem
  refine ⟨?_, daemon, queries, hstart⟩
  -- No load is in flight, so the one that began last was applied, and it was applied last.
  obtain ⟨since, hsince, hfly | ⟨report', hlast, -⟩⟩ := hfresh.latest ⟨_, hstart, rfl⟩
  · obtain ⟨daemon, queries, hw⟩ := hfly
    cases hdrained _ hw
  · obtain ⟨_, _, before, hlog, -⟩ := hsince
    have hlog : y.logAt i = (before ++ [_]) ++ since := hlog.trans (List.append_cons ..)
    have hlatest : AppliedLast i t.status.issued report' (y.logAt i) := hlog ▸ hlast.after _
    have hsame := Option.some.inj (happlied.find?.symm.trans hlatest.find?)
    exact (Completion.loaded.inj (Event.ended.inj hsame).1).2.1

end Dashboard
