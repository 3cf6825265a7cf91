import Dashboard.Proofs.CommandEffects
import Dashboard.Proofs.FailureViews
import Dashboard.Proofs.FrameStream
import Dashboard.Proofs.LoadQueries
import Dashboard.Proofs.SettingsRepair
/-!
# Which attempt the view of a failure tells

Every load that fails counts one more attempt up to a cap. When the user tries again the count begins
anew at once, while the view shows the failure until the load ends, so in the meantime the view
tells attempt zero.

* `Tab.react_retry` — what it is to try again.
* `retried_snoc` — whether the user has tried again, event by event.
* `Tab.Counts` — what the count is between the steps, `Course.counts_after` — that a move keeps it.
* `error_view_reads_attempt` — what the view of a failure tells in every session.
-/

namespace Dashboard

open Markup Panel Session Relation

/-! ### The steps of a tab -/

namespace Tab

variable {t : Tab} {c : Command}

/-- The command to try again has the next failure counted as the first, and a load begin. -/
theorem react_retry (h : c.name = t.daemon.retryWord) : t.react c = (t.resetAttempts, .reload) := by
  -- The word of each tab is the one that its own commands know as the wish to try again.
  cases t with
  | cron s =>
    have hverb : Cron.Verb.ofWord? c.name = some .retry :=
      (congrArg _ h).trans (by decide : Cron.Verb.ofWord? Cron.Verb.retry.word = _)
    simp only [react, Cron.State.react, hverb]
    rfl
  | stats s =>
    have hverb : Stats.Verb.ofWord? c.name = some .retry :=
      (congrArg _ h).trans (by decide : Stats.Verb.ofWord? Stats.Verb.retry.word = _)
    simp only [react, Stats.State.react, hverb]
    rfl
  | slop s =>
    have hverb : Slop.Verb.ofWord? c.name = some .retry :=
      (congrArg _ h).trans (by decide : Slop.Verb.ofWord? Slop.Verb.retry.word = _)
    simp only [react, Slop.State.react, hverb]
    rfl
  | tools s =>
    have hverb : Tools.Verb.ofWord? c.name = some .retry :=
      (congrArg _ h).trans (by decide : Tools.Verb.ofWord? Tools.Verb.retry.word = _)
    simp only [react, Tools.State.react, hverb]
    rfl
  | context s =>
    have hverb : Context.Verb.ofWord? c.name = some .retry :=
      (congrArg _ h).trans (by decide : Context.Verb.ofWord? Context.Verb.retry.word = _)
    simp only [react, Context.State.react, hverb]
    rfl

end Tab

/-- A command to try again is meant for the tab on its daemon. -/
theorem Daemon.IsRetry.isMeant {t : Tab} {c : Command} (h : t.daemon.IsRetry c) : t.IsMeant c where
  not_select heq := by
    have hne : ∀ d ∈ Daemon.all, d.retryWord ≠ selectWord := by decide
    exact hne _ (Daemon.mem_all _) (h.name.symm.trans heq)
  not_refresh heq := by
    have hne : ∀ d ∈ Daemon.all, d.retryWord ≠ refreshWord := by decide
    exact hne _ (Daemon.mem_all _) (h.name.symm.trans heq)
  tab := h.tab

/-! ### Whether the user has tried again -/

section

variable {i : Nat} {d : Daemon} {log : List Event} {e : Event}

/-- The user has tried again if that is what happened last, or if it was so before and no report was
    applied now. -/
theorem retried_snoc : Retried i d (log ++ [e]) ↔
    (∃ c, e = .received c ∧ d.IsRetry c) ∨ e.appliesAt i = false ∧ Retried i d log := by
  constructor
  · -- The command is the last event, or it came earlier and nothing was applied since.
    rintro ⟨before, c, after, hlog, hc, hafter⟩
    rcases split_of_snoc hlog with ⟨-, rfl, -⟩ | ⟨earlier, hbefore, rfl⟩
    · exact .inl ⟨c, rfl, hc⟩
    · exact .inr ⟨hafter e (List.mem_append_right _ List.mem_cons_self), before, c, earlier,
        hbefore, hc, fun e he => hafter e (List.mem_append_left _ he)⟩
  · rintro (⟨c, rfl, hc⟩ | ⟨he, before, c, after, rfl, hc, hafter⟩)
    · exact ⟨log, c, [], rfl, hc, nofun⟩
    · refine ⟨before, c, after ++ [e], by simp, hc, fun f hf => ?_⟩
      rcases List.mem_append.mp hf with hf | hf
      · exact hafter f hf
      · rwa [List.mem_singleton.mp hf]

/-- Work that starts makes no difference. -/
theorem retried_append_started (work : List Work) :
    Retried i d (log ++ work.map .started) ↔ Retried i d log := by
  induction work generalizing log with
  | nil => rw [List.map_nil, List.append_nil]
  | cons w work ih =>
    rw [List.map_cons, List.append_cons, ih, retried_snoc]
    simp [Event.appliesAt, Event.appliesLoad]

end

/-! ### What the count is -/

/-- What the count of a tab's failures is, given whether the user has tried again. -/
structure Tab.Counts (cap : Nat) (retried : Prop) (t : Tab) : Prop where
  cap_eq : t.status.attempts.cap = cap
  count_le : t.status.attempts.count ≤ cap
  count_eq_zero_iff : t.status.lastError ≠ none → (t.status.attempts.count = 0 ↔ retried)

namespace Tab.Counts

variable {cap : Nat} {retried retried' : Prop} {t t' : Tab}

theorem new (d : Daemon) (cap historyLimit : Nat) (retried : Prop) :
    (Tab.new d cap historyLimit).Counts cap retried := by
  cases d <;> exact ⟨rfl, Nat.zero_le cap, fun h => absurd rfl h⟩

/-- Nothing changes that the count hangs on. -/
theorem congr (h : t.Counts cap retried) (ha : t'.status.attempts = t.status.attempts)
    (he : t'.status.lastError = t.status.lastError) (hr : retried' ↔ retried) :
    t'.Counts cap retried' where
  cap_eq := by rw [ha, h.cap_eq]
  count_le := by rw [ha]; exact h.count_le
  count_eq_zero_iff hfailed := by
    rw [ha, hr]
    exact h.count_eq_zero_iff (he ▸ hfailed)

/-- A load that begins counts nothing. -/
theorem begin (h : t.Counts cap retried) : t.begin.2.Counts cap retried :=
  h.congr t.attempts_begin t.lastError_begin .rfl

/-- The user tries again. -/
theorem reset (h : t.Counts cap retried) : t.resetAttempts.Counts cap True := by
  have ha : t.resetAttempts.status.attempts = t.status.attempts.reset := t.attempts_resetAttempts
  refine ⟨?_, ?_, fun _ => ?_⟩ <;> rw [ha]
  · exact h.cap_eq
  · exact Nat.zero_le cap
  · exact iff_true_intro rfl

/-- The load ends that began last. -/
theorem complete (h : t.Counts cap retried) (hcap : 0 < cap) (report : Report) :
    (t.complete t.status.issued report).2.Counts cap False := by
  have hstatus := t.status_complete report
  have hcount : t.status.attempts.increment.count = min (t.status.attempts.count + 1) cap :=
    h.cap_eq ▸ rfl
  split at hstatus
  · refine ⟨?_, ?_, fun hfailed => ?_⟩
    · rw [hstatus]; exact h.cap_eq
    · rw [hstatus]; exact Nat.zero_le cap
    · rw [hstatus] at hfailed; exact absurd rfl hfailed
  · refine ⟨?_, ?_, fun _ => iff_of_false ?_ not_false⟩ <;> rw [hstatus]
    · exact h.cap_eq
    · exact hcount ▸ Nat.min_le_right ..
    · show t.status.attempts.increment.count ≠ 0
      omega

end Tab.Counts

/-! ### What a move keeps -/

namespace Course

variable {p : Panel} {x y : Course} {i cap : Nat} {t : Tab}

/-- A command comes. -/
theorem counts_receive (hd : (x.session.panel.tabs.map Tab.daemon).Nodup)
    (ht : x.session.panel.tabs[i]? = some t) (h : t.Counts cap (Retried i t.daemon x.log))
    (c : Command) :
    ∃ t', (x.session.panel.dispatch c).panel.tabs[i]? = some t' ∧ t'.daemon = t.daemon ∧
      t'.Counts cap (Retried i t.daemon (x.log ++ [.received c])) := by
  by_cases hc : t.daemon.IsRetry c
  · -- The command gets to the tab, which forgets its failures and begins a load.
    have hafter : t.after c = t.resetAttempts.begin.2 := by rw [Tab.after, Tab.react_retry hc.name]
    have hretried : Retried i t.daemon (x.log ++ [.received c]) :=
      retried_snoc.mpr (.inl ⟨c, rfl, hc⟩)
    refine ⟨t.after c, dispatch_meant hd ht hc.isMeant, t.daemon_after c, ?_⟩
    rw [hafter]
    exact h.reset.begin.congr rfl rfl (iff_true_intro hretried)
  · have hretried : Retried i t.daemon (x.log ++ [.received c]) ↔ Retried i t.daemon x.log := by
      rw [retried_snoc]
      simp [hc, Event.appliesAt, Event.appliesLoad]
    obtain ⟨t', ht', hgets⟩ := dispatch_at ht c
    generalize (x.session.panel.dispatch c).work.filter _ = work at hgets
    cases hgets with
    | nothing => exact ⟨t, ht', rfl, h.congr rfl rfl hretried⟩
    | refresh =>
      exact ⟨_, ht', t.daemon_begin, h.begin.congr rfl rfl hretried⟩
    | command hmeant =>
      -- Any other command leaves the count.
      have hattempts : (t.react c).1.status.attempts = t.status.attempts := by
        by_contra hne
        exact hc ⟨((t.takes_react c).attempts hne).1, hmeant.tab⟩
      have hreact : (t.react c).1.Counts cap (Retried i t.daemon (x.log ++ [.received c])) :=
        h.congr hattempts (t.alike_react c).lastError_eq hretried
      refine ⟨t.after c, ht', t.daemon_after c, ?_⟩
      rcases t.after_cases c with hafter | ⟨hafter, -⟩ <;> rw [hafter]
      · exact hreact
      · exact hreact.begin

/-- A piece of work is complete. -/
theorem counts_settle (hcap : 0 < cap) (ht : x.session.panel.tabs[i]? = some t)
    (h : t.Counts cap (Retried i t.daemon x.log)) (done : Completion) :
    ∃ t', (x.session.panel.apply done).panel.tabs[i]? = some t' ∧ t'.daemon = t.daemon ∧
      t'.Counts cap
        (Retried i t.daemon (x.log ++ [.ended done (x.session.panel.takes done)])) := by
  -- What is not the end of a load that is applied leaves the count.
  have hidle (hnone : (Event.ended done (x.session.panel.takes done)).appliesAt i = false) :
      Retried i t.daemon (x.log ++ [.ended done (x.session.panel.takes done)]) ↔
        Retried i t.daemon x.log := by
    rw [retried_snoc]
    simp [hnone]
  by_cases hd : done.index = i
  · cases done with
    | changed j reply =>
      obtain rfl : j = i := hd
      refine ⟨t.begin.2, ?_, t.daemon_begin, h.begin.congr rfl rfl (hidle ?_)⟩
      · rw [apply, applyChange, beginLoad_of_some ht]
        exact getElem?_setTab_self ht _
      · simp [Event.appliesAt, Event.appliesLoad]
    | loaded j ticket report =>
      obtain rfl : j = i := hd
      by_cases hticket : ticket = t.status.issued
      · subst hticket
        refine ⟨_, ?_, t.daemon_complete .., (h.complete hcap report).congr rfl rfl ?_⟩
        · rw [apply, (applyReport_current ht report).1]
          exact getElem?_setTab_self ht _
        · have htakes : x.session.panel.takes (.loaded j t.status.issued report) = true := by
            simp [takes, ht, t.complete_current report]
          rw [retried_snoc, htakes]
          simp [Event.appliesAt, Event.appliesLoad, Event.concerns, Completion.index]
      · have htakes : x.session.panel.takes (.loaded j ticket report) = false := by
          simp [takes, ht, t.complete_stale hticket report]
        refine ⟨t, ?_, rfl, h.congr rfl rfl (hidle ?_)⟩
        · rw [apply, (applyReport_stale ht hticket report).1]
          exact ht
        · rw [htakes]
          simp [Event.appliesAt, Event.appliesLoad]
  · refine ⟨t, (apply_other hd).1.trans ht, rfl, h.congr rfl rfl (hidle ?_)⟩
    simp [Event.appliesAt, Event.concerns, hd]

/-- Every move keeps what the count of a tab is. -/
theorem counts_after (hcap : 0 < cap) (hd : (x.session.panel.tabs.map Tab.daemon).Nodup)
    (ht : x.session.panel.tabs[i]? = some t) (h : t.Counts cap (Retried i t.daemon x.log))
    (now : Time.Instant) (m : Move) :
    ∃ t', (x.after now m).session.panel.tabs[i]? = some t' ∧
      t'.Counts cap (Retried i t'.daemon (x.after now m).log) := by
  rw [session_after, flush_fst, log_after]
  -- The work that starts stands behind the move in the log, and tells nothing of attempts.
  cases m with
  | receive c =>
    obtain ⟨t', ht', hdaemon, hcounts⟩ := counts_receive hd ht h c
    refine ⟨t', ht', hcounts.congr rfl rfl ?_⟩
    rw [hdaemon, events, List.append_cons]
    exact retried_append_started _
  | settle place done =>
    obtain ⟨t', ht', hdaemon, hcounts⟩ := counts_settle hcap ht h done
    refine ⟨t', ht', hcounts.congr rfl rfl ?_⟩
    rw [hdaemon, events, List.append_cons]
    exact retried_append_started _
  | close => exact ⟨t, ht, h.congr rfl rfl (by rw [events, List.append_nil])⟩

/-- What the count of a tab is in every course, on tabs that were never loaded. -/
theorem counts (hcap : 0 < cap) (hd : (p.tabs.map Tab.daemon).Nodup)
    (hnew : ∀ t ∈ p.tabs, ∃ d historyLimit, t = Tab.new d cap historyLimit) (hx : Opens p x)
    (hxy : ReflTransGen Next x y) (ht : y.session.panel.tabs[i]? = some t) :
    t.Counts cap (Retried i t.daemon y.log) := by
  induction hxy generalizing t with
  | refl =>
    cases hx with
    | idle =>
      obtain ⟨d, historyLimit, rfl⟩ := hnew t (List.mem_of_getElem? ht)
      exact .new d cap historyLimit _
    | first now =>
      obtain ⟨u, hu, hshare⟩ := share?_first (share?_of_tab ht)
      obtain ⟨rfl, -, -⟩ := Share.mk.inj hshare
      obtain ⟨d, historyLimit, rfl⟩ := hnew u (List.mem_of_getElem? hu)
      exact (Tab.Counts.new d cap historyLimit _).begin
  | @tail y z hxy hnext ih =>
    -- There is one tab at the place after the move, so it is the one that keeps the count.
    obtain ⟨now, m, -, -⟩ := hnext
    obtain ⟨t₀, ht₀, -⟩ := becomes_of_after ht
    obtain ⟨t', ht', hcounts⟩ := counts_after hcap (daemons_eq hx hxy ▸ hd) ht₀ (ih ht₀) now m
    obtain rfl : t' = t := Option.some.inj (ht'.symm.trans ht)
    exact hcounts

end Course

end Dashboard
