import Dashboard.Tab.History
/-!
# What the history of a tab's loads tells

However loads overlap and whenever they end, the state of a tab is what its history tells.

* `complete_current`, `complete_stale` — the end of a load, by whether its ticket is the latest.
* `Tells.begin`, `Tells.success`, `Tells.failure`, `Tells.stale`, `Tells.reset` — what each deed
  keeps.
* `replay_tells` — what every proper history keeps.
* `history_tells_state` — both together, with the answer that every end of a load gave.
-/

namespace Dashboard.Tab.LoadState

variable {σ : Type} {cap : Nat} {w : Watched σ} {h : List (Deed σ)}

/-! ### The end of a load -/

theorem complete_current (s : LoadState σ) (report : Report) (normalize : Report → σ) :
    s.complete s.issued report normalize = (true, s.apply report normalize) := by
  simp [complete, isCurrent]

theorem complete_stale {s : LoadState σ} {ticket : Nat} (ht : ticket ≠ s.issued) (report : Report)
    (normalize : Report → σ) : s.complete ticket report normalize = (false, s) := by
  simp [complete, isCurrent, ht]

/-- A success replaces the snapshot and forgets the error. -/
theorem apply_of_success (s : LoadState σ) {report : Report} (hr : report.anySuccess = true)
    (normalize : Report → σ) :
    s.apply report normalize =
      { s with
        snapshot := some (normalize report)
        lastError := none
        attempts := s.attempts.reset
        phase := .loaded } := by
  simp [apply, hr]

/-- A failure keeps the snapshot and is counted. -/
theorem apply_of_failure (s : LoadState σ) {report : Report} (hr : report.anySuccess = false)
    (normalize : Report → σ) :
    s.apply report normalize =
      { s with
        lastError := some report.summary
        attempts := s.attempts.increment
        phase := .errored } := by
  simp [apply, hr]

namespace Watched

/-- The report of the load that began last is applied and signalled. -/
theorem complete_current (w : Watched σ) (report : Report) (normalize : Report → σ) :
    w.complete w.load.issued report normalize =
      (true, { load := w.load.apply report normalize, signals := w.signals + 1 }) := by
  simp [complete, LoadState.complete_current]

theorem complete_stale (w : Watched σ) {ticket : Nat} (ht : ticket ≠ w.load.issued)
    (report : Report) (normalize : Report → σ) :
    w.complete ticket report normalize = (false, w) := by
  simp [complete, LoadState.complete_stale ht]

/-- A load is applied exactly if its ticket is the latest. -/
theorem complete_fst_iff (w : Watched σ) (ticket : Nat) (report : Report)
    (normalize : Report → σ) :
    (w.complete ticket report normalize).1 = true ↔ ticket = w.load.issued := by
  by_cases ht : ticket = w.load.issued
  · subst ht; simp [complete_current]
  · simp [complete_stale w ht, ht]

end Watched

/-! ### Tickets -/

/-- As many loads were issued as began. -/
theorem issued_replay (cap : Nat) (h : List (Deed σ)) : (replay cap h).load.issued = begun h := by
  induction h with
  | nil => rfl
  | cons d earlier ih =>
    cases d with
    | begin => simp [replay, Watched.after, begin, begun, ih]
    | complete ticket report normalize =>
      simp only [replay, Watched.after, begun]
      by_cases ht : ticket = (replay cap earlier).load.issued
      · subst ht
        rw [Watched.complete_current]
        -- No report changes the number of loads.
        simp only [apply]
        split <;> exact ih
      · rw [Watched.complete_stale _ ht]
        exact ih
    | resetAttempts => exact ih

/-- Tickets are counted from one. -/
theorem mem_tickets_iff {ticket : Nat} :
    ticket ∈ tickets cap h ↔ 0 < ticket ∧ ticket ≤ begun h := by
  induction h with
  | nil => simp [tickets, begun]; omega
  | cons d earlier ih =>
    cases d with
    | begin =>
      simp only [tickets, begun, List.mem_cons, ih, begin, issued_replay]
      omega
    | complete => simpa [tickets, begun] using ih
    | resetAttempts => simpa [tickets, begun] using ih

/-- The ticket that was given last is the number of loads. -/
theorem head?_tickets (hb : 0 < begun h) : (tickets cap h).head? = some (begun h) := by
  induction h with
  | nil => simp [begun] at hb
  | cons d earlier ih =>
    cases d with
    | begin => simp [tickets, begun, begin, issued_replay]
    | complete => exact ih hb
    | resetAttempts => exact ih hb

/-- No load ends with a ticket beyond the last. -/
theorem Proper.ticket_le (hp : Proper cap h) {ticket : Nat} {report : Report}
    {normalize : Report → σ} (hm : Deed.complete ticket report normalize ∈ h) :
    ticket ≤ begun h := by
  induction h with
  | nil => simp at hm
  | cons d earlier ih =>
    cases d with
    | begin =>
      -- Earlier loads have earlier tickets.
      have := ih hp (by simpa using hm)
      simp only [begun]
      omega
    | complete =>
      obtain ⟨ht, hp⟩ := hp
      rcases List.mem_cons.mp hm with heq | hm
      · cases heq
        exact (mem_tickets_iff.mp ht).2
      · exact ih hp hm
    | resetAttempts => exact ih hp (by simpa using hm)

/-! ### Whether the last load has ended -/

/-- A load that has just begun has not ended. -/
theorem not_endedLatest_begin (hp : Proper cap h) : ¬ endedLatest (Deed.begin :: h) := by
  rintro ⟨report, normalize, hm⟩
  -- The new load has a ticket that no load before it can end with.
  have hle := hp.ticket_le (by simpa using hm)
  simp only [begun] at hle
  omega

theorem endedLatest_current (report : Report) (normalize : Report → σ) :
    endedLatest (Deed.complete (begun h) report normalize :: h) :=
  ⟨report, normalize, by simp [begun]⟩

theorem endedLatest_stale {ticket : Nat} (ht : ticket ≠ begun h) (report : Report)
    (normalize : Report → σ) :
    endedLatest (Deed.complete ticket report normalize :: h) ↔ endedLatest h := by
  simp [endedLatest, begun, ht.symm]

theorem endedLatest_reset : endedLatest (Deed.resetAttempts :: h) ↔ endedLatest h := by
  simp [endedLatest, begun]

/-! ### What each deed keeps -/

/-- A tab as it is made, before anything was done. -/
theorem tells_nil : Tells cap ([] : List (Deed σ)) { load := .new cap } where
  issued := rfl
  snapshot := rfl
  lastError := rfl
  attempts := by simp [new, failuresInARow]
  uninitialized _ := rfl
  loading hb := by simp [begun] at hb
  ended := by rintro ⟨_, _, hm⟩; simp at hm
  signals := rfl

/-- A load that begins changes the phase and nothing else that is told. -/
theorem Tells.begin (ht : Tells cap h w) (hp : Proper cap h) :
    Tells cap (.begin :: h) (w.after .begin) where
  issued := by simp [Watched.after, LoadState.begin, begun, ht.issued]
  snapshot := ht.snapshot
  lastError := ht.lastError
  attempts := ht.attempts
  uninitialized hb := by simp [begun] at hb
  loading _ _ := rfl
  ended he := absurd he (not_endedLatest_begin hp)
  signals := ht.signals

theorem applied_current (report : Report) (normalize : Report → σ) :
    applied (.complete (begun h) report normalize :: h) = (report, normalize) :: applied h := by
  simp [applied]

/-- The report of the load that began last is applied, and the tab asks to be drawn again. -/
theorem Tells.after_current (ht : Tells cap h w) (report : Report) (normalize : Report → σ) :
    w.after (.complete (begun h) report normalize) =
      { load := w.load.apply report normalize, signals := w.signals + 1 } := by
  rw [Watched.after, ← ht.issued, Watched.complete_current]

/-- After a success nothing of earlier loads is left. -/
theorem Tells.success (ht : Tells cap h w) (hb : 0 < begun h) {report : Report}
    (hr : report.anySuccess = true) (normalize : Report → σ) :
    Tells cap (.complete (begun h) report normalize :: h)
      (w.after (.complete (begun h) report normalize)) := by
  have happ := applied_current (h := h) report normalize
  rw [ht.after_current, apply_of_success _ hr]
  exact
    { issued := ht.issued
      snapshot := by simp [happ, hr]
      lastError := by simp [happ, hr]
      attempts := by simp [Attempts.reset, ht.attempts, failuresInARow, hr]
      uninitialized := fun h0 => absurd h0 (Nat.pos_iff_ne_zero.mp hb)
      loading := fun _ hn => absurd (endedLatest_current report normalize) hn
      ended := fun _ => ⟨_, _, happ, by simp [hr]⟩
      signals := by simp [happ, ht.signals] }

/-- A failure leaves the snapshot and counts. -/
theorem Tells.failure (ht : Tells cap h w) (hb : 0 < begun h) {report : Report}
    (hr : report.anySuccess = false) (normalize : Report → σ) :
    Tells cap (.complete (begun h) report normalize :: h)
      (w.after (.complete (begun h) report normalize)) := by
  have happ := applied_current (h := h) report normalize
  -- One failure more in a row, cut where the count ends.
  have hcount : failuresInARow (.complete (begun h) report normalize :: h) =
      failuresInARow h + 1 := by simp [failuresInARow, hr]
  rw [ht.after_current, apply_of_failure _ hr]
  exact
    { issued := ht.issued
      snapshot := by simp [happ, hr, ht.snapshot]
      lastError := by simp [happ, hr]
      attempts := by
        simp only [Attempts.increment, ht.attempts, hcount, Attempts.mk.injEq, and_true]
        omega
      uninitialized := fun h0 => absurd h0 (Nat.pos_iff_ne_zero.mp hb)
      loading := fun _ hn => absurd (endedLatest_current report normalize) hn
      ended := fun _ => ⟨_, _, happ, by simp [hr]⟩
      signals := by simp [happ, ht.signals] }

/-- A load that is not the latest leaves everything. -/
theorem Tells.stale (ht : Tells cap h w) {ticket : Nat} (hne : ticket ≠ begun h)
    (report : Report) (normalize : Report → σ) :
    Tells cap (.complete ticket report normalize :: h)
      (w.after (.complete ticket report normalize)) := by
  have happ : applied (.complete ticket report normalize :: h) = applied h := by
    simp [applied, hne]
  have hcount : failuresInARow (.complete ticket report normalize :: h) = failuresInARow h := by
    simp [failuresInARow, hne]
  have hw : w.after (.complete ticket report normalize) = w := by
    rw [Watched.after, Watched.complete_stale w (by rw [ht.issued]; exact hne)]
  -- Neither the tab nor what the history tells of it changes.
  rw [hw]
  exact
    { issued := ht.issued
      snapshot := by rw [happ, ht.snapshot]
      lastError := by rw [happ, ht.lastError]
      attempts := by rw [hcount, ht.attempts]
      uninitialized := ht.uninitialized
      loading := fun hb hn => ht.loading hb fun he => hn ((endedLatest_stale hne _ _).mpr he)
      ended := fun he => by rw [happ]; exact ht.ended ((endedLatest_stale hne _ _).mp he)
      signals := by rw [happ, ht.signals] }

/-- A reset forgets the failures and nothing else that is told. -/
theorem Tells.reset (ht : Tells cap h w) :
    Tells cap (.resetAttempts :: h) (w.after .resetAttempts) where
  issued := ht.issued
  snapshot := ht.snapshot
  lastError := ht.lastError
  attempts := by simp [Watched.after, resetAttempts, Attempts.reset, ht.attempts, failuresInARow]
  uninitialized := ht.uninitialized
  loading hb hn := ht.loading hb fun he => hn (endedLatest_reset.mpr he)
  ended he := ht.ended (endedLatest_reset.mp he)
  signals := ht.signals

/-! ### What every history keeps -/

/-- A tab is in the state that its history tells. -/
theorem replay_tells (hp : Proper cap h) : Tells cap h (replay cap h) := by
  induction h with
  | nil => exact tells_nil
  | cons d earlier ih =>
    cases d with
    | begin => exact (ih hp).begin hp
    | complete ticket report normalize =>
      obtain ⟨hmem, hp⟩ := hp
      -- The ticket was given, so a load has begun.
      have hb : 0 < begun earlier := by
        have := mem_tickets_iff.mp hmem
        omega
      by_cases hne : ticket = begun earlier
      · subst hne
        cases hr : report.anySuccess
        · exact (ih hp).failure hb hr normalize
        · exact (ih hp).success hb hr normalize
      · exact (ih hp).stale hne report normalize
    | resetAttempts => exact (ih hp).reset

/-- What was done earlier in a proper history is proper. -/
theorem Proper.of_append {later : List (Deed σ)} (hp : Proper cap (later ++ h)) : Proper cap h := by
  induction later with
  | nil => exact hp
  | cons d later ih =>
    cases d with
    | begin => exact ih hp
    | complete => exact ih hp.2
    | resetAttempts => exact ih hp

/-- The answer to the end of a load says whether the load began last; if it did not, nothing
    changes. -/
theorem answer_of_proper {ticket : Nat} {report : Report} {normalize : Report → σ}
    (hp : Proper cap (.complete ticket report normalize :: h)) :
    (((replay cap h).complete ticket report normalize).1 = true ↔
      (tickets cap h).head? = some ticket) ∧
    (((replay cap h).complete ticket report normalize).1 = false →
      ((replay cap h).complete ticket report normalize).2 = replay cap h) := by
  have hb : 0 < begun h := by
    have := mem_tickets_iff.mp hp.1
    omega
  have hiff := (replay cap h).complete_fst_iff ticket report normalize
  rw [issued_replay] at hiff
  refine ⟨?_, ?_⟩
  · rw [hiff, head?_tickets hb, Option.some.injEq]
    exact eq_comm
  · intro hf
    have hne : ticket ≠ begun h := fun he => by simp [hiff.mpr he] at hf
    rw [Watched.complete_stale _ (by rw [issued_replay]; exact hne)]

/-- After any proper history, a tab is in the state that the history tells; the count of failures
    stays so small that counting one more does not leave 32 bits. Whenever a load ended, the answer
    was that its report is applied exactly if its ticket was the one given last, and else nothing
    changed. -/
theorem history_tells_state (cap : Nat) (hcap : cap < UInt32.size - 1) (h : List (Deed σ))
    (hp : Proper cap h) :
    Tells cap h (replay cap h) ∧
    (replay cap h).load.attempts.count + 1 < UInt32.size ∧
    ∀ later ticket report normalize earlier,
      h = later ++ .complete ticket report normalize :: earlier →
      (((replay cap earlier).complete ticket report normalize).1 = true ↔
        (tickets cap earlier).head? = some ticket) ∧
      (((replay cap earlier).complete ticket report normalize).1 = false →
        ((replay cap earlier).complete ticket report normalize).2 = replay cap earlier) := by
  have ht := replay_tells hp
  refine ⟨ht, ?_, ?_⟩
  · rw [ht.attempts]
    show min cap (failuresInARow h) + 1 < UInt32.size
    have hmin : min cap (failuresInARow h) ≤ cap := Nat.min_le_left ..
    omega
  · rintro later ticket report normalize earlier rfl
    exact answer_of_proper hp.of_append

/-- Three loads overlap. The last one fails, and the successes that come after it are discarded. -/
theorem history_tells_state_overlapping :
    let refused : Report := ⟨[⟨"getJobs", .failure "refused"⟩]⟩
    let granted : Report := ⟨[⟨"getJobs", .done⟩]⟩
    let h : List (Deed Nat) :=
      [ .complete 1 granted fun _ => 7, .complete 3 refused fun _ => 8
      , .complete 2 granted fun _ => 9, .begin, .begin, .begin ]
    Proper 3 h ∧ (replay 3 h).load.snapshot = none ∧
      (replay 3 h).load.lastError = some refused.summary ∧
      (replay 3 h).load.attempts = { count := 1, cap := 3 } ∧ (replay 3 h).signals = 1 := by
  intro refused granted h
  have hp : Proper 3 h := by simp [h, Proper, tickets, replay, Watched.after, begin, new]
  obtain ⟨ht, -, -⟩ := history_tells_state 3 (by decide) h hp
  exact ⟨hp, ht.snapshot, ht.lastError, ht.attempts, ht.signals⟩

end Dashboard.Tab.LoadState
