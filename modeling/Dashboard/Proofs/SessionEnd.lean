import Dashboard.Panel.Agenda
import Dashboard.Proofs.Addressing
import Dashboard.Proofs.TabShare
import Dashboard.World.Script
import Mathlib
/-!
# Every session comes to its end

A mutation that is complete makes the work of loading its tab, so work makes work. But a load makes
none, so each command leads to a number of completions that is known when the command comes.

* `Panel.totalWeight_dispatch` — this number is the weight of the work that the command makes.
* `Session.weight_settle_lt`, `Session.weight_settle` — a completion takes from the weight of the
  work in flight, and takes one if the work is for a tab that there is.
* `Agenda.weight`, `Agenda.wellFounded_next` — no session goes on for ever.
* `Agenda.Accounted` — the books of a session, `Accounted.next` — every move keeps them.
* `Share.Settled` — a tab of which no load is in flight has been loaded, or failed to load.
* `Session.wellFounded_drains`, `Panel.drains_drain` — the same for a single command.
* `every_session_ends` — all of it together.
-/

namespace Dashboard

open Panel Session Relation

/-! ### How much work a command makes -/

/-- What a command is taken for where one tab reacts to it leads to two completions at most. -/
theorem Panel.Route.completions_le (r : Route) (tabs : Nat) : r.completions tabs ≤ tabs + 2 := by
  cases r <;> simp only [completions] <;> omega

/-- The work that a command makes for a tab weighs what the command is taken for. -/
theorem Tab.totalWeight_workAt (t : Tab) (c : Command) (i tabs : Nat) :
    totalWeight (t.workAt c i) = (t.react c).2.route.completions tabs := by
  unfold workAt
  generalize t.react c = answer
  obtain ⟨t', reaction⟩ := answer
  cases reaction <;> rfl

namespace Panel

variable {p : Panel} {c : Command}

/-- Loads weigh one each. -/
theorem totalWeight_of_isLoad {work : List Work} (h : ∀ w ∈ work, w.isLoad = true) :
    totalWeight work = work.length := by
  induction work with
  | nil => rfl
  | cons w work ih =>
    have hw := h w List.mem_cons_self
    cases w with
    | load =>
      rw [totalWeight_cons, ih fun v hv => h v (List.mem_cons_of_mem _ hv), List.length_cons]
      exact Nat.add_comm ..
    | change => simp [Work.isLoad] at hw

/-- The loads of all tabs make one completion each. -/
theorem totalWeight_beginAll (p : Panel) : totalWeight p.beginAll.2 = p.tabs.length := by
  rw [beginAll_eq, totalWeight_of_isLoad, List.length_mapIdx]
  intro w hw
  obtain ⟨i, _, rfl⟩ := List.mem_mapIdx.mp hw
  rfl

/-- Handing a command to the tabs at some places in turn makes the work that the first tab asks for
    that handles it. -/
theorem totalWeight_offer (p : Panel) (c : Command) (places : List Nat) (tabs : Nat) :
    totalWeight (p.offer c places).work =
      (((places.filterMap (p.tabs[·]?)).map fun t => (t.react c).2).find? (·.isHandled)).elim 0
        (·.route.completions tabs) := by
  induction places with
  | nil => rfl
  | cons i places ih =>
    cases hi : p.tabs[i]? with
    | none =>
      have hnone : p.address i c = p.ignore [] := by simp [address, hi]
      rw [offer_cons_of_refused hnone, List.filterMap_cons_none hi]
      exact ih
    | some t =>
      rw [List.filterMap_cons_some hi, List.map_cons]
      have hhandled : (p.address i c).handled = (t.react c).2.isHandled := by rw [address_eq hi]
      cases ht : (t.react c).2.isHandled with
      | true =>
        have hwork : (p.offer c (i :: places)).work = t.workAt c i := by
          rw [offer, if_pos (hhandled.trans ht), address_eq hi]
        rw [hwork, t.totalWeight_workAt c i tabs, List.find?_cons_of_pos ht]
        rfl
      | false =>
        -- The tab refuses the command, and those after it are asked.
        rw [offer_cons_of_refused (address_eq_ignore (hhandled.trans ht)),
          List.find?_cons_of_neg (by simp [ht])]
        exact ih

/-- At all places together stand all tabs. -/
theorem filterMap_places (p : Panel) :
    (List.range p.tabs.length).filterMap (p.tabs[·]?) = p.tabs := by
  have hmap : (List.range p.tabs.length).map (p.tabs[·]?) = p.tabs.map some := by
    refine List.ext_getElem (by simp) fun i hi hi' => ?_
    have hlt : i < p.tabs.length := by simpa using hi
    simp [hlt]
  have hfilter := congrArg (List.filterMap id) hmap
  simpa [List.filterMap_map] using hfilter

/-- The work that a command makes leads to as many completions as what the command is taken for. -/
theorem totalWeight_dispatch (p : Panel) (c : Command) :
    totalWeight (p.dispatch c).work = (p.routeOf c).completions p.tabs.length := by
  unfold dispatch routeOf
  split
  · rw [(p.select_tabs c).2]
    rfl
  · split
    · exact p.totalWeight_beginAll
    · -- The weight is that of the reaction that counts.
      have helim (r : Option Tab.Reaction) : (r.elim Route.rest (·.route)).completions
          p.tabs.length = r.elim 0 (·.route.completions p.tabs.length) := by
        cases r <;> rfl
      rw [helim, reactionTo?]
      -- A command without a tab is offered to all; one that names its tab goes there alone.
      cases htab : c.tab with
      | none =>
        dsimp only
        rw [totalWeight_offer p c _ p.tabs.length, filterMap_places]
      | some id =>
        dsimp only
        rw [tab?, List.find?_eq_bind_findIdx?_getElem?, index?]
        cases hplace : p.tabs.findIdx? (·.id == id) with
        | none => rfl
        | some i =>
          obtain ⟨hlt, -⟩ := List.findIdx?_eq_some_iff_getElem.mp hplace
          have hi : p.tabs[i]? = some p.tabs[i] := List.getElem?_eq_getElem hlt
          rw [Option.bind_some, hi]
          show totalWeight (p.address i c).work = _
          rw [address_eq hi]
          exact p.tabs[i].totalWeight_workAt c i p.tabs.length

/-- The end of a piece of work makes less work than the piece was, and less by one if it was for a
    tab that there is. -/
theorem weight_apply {w : Work} {done : Completion} (p : Panel) (hy : w.Yields done) :
    totalWeight (p.apply done).work + 1 ≤ w.weight ∧
      (w.index < p.tabs.length → totalWeight (p.apply done).work + 1 = w.weight) := by
  cases hy with
  | @load i ticket daemon queries report =>
    have hnone : totalWeight (p.apply (.loaded i ticket report)).work = 0 := by
      rw [apply, work_applyReport]
      rfl
    rw [hnone]
    exact ⟨Nat.le_refl _, fun _ => rfl⟩
  -- A mutation weighs two, for itself and for the load that follows it.
  | @change i mutation reply =>
    refine ⟨Nat.succ_le_succ (p.totalWeight_applyChange_le i), fun hi => ?_⟩
    have hi : p.tabs[i]? = some p.tabs[i] := List.getElem?_eq_getElem hi
    rw [apply, applyChange, beginLoad_of_some hi]
    rfl

end Panel

/-! ### Work in flight -/

namespace Session

variable {s s' : Session} {place : Nat} {done : Completion}

/-- Of the work in flight one piece is complete; the others stay. -/
theorem allows_settle (ha : s.Allows (.settle place done)) :
    ∃ w ∈ s.inFlight, w.Yields done ∧
      totalWeight (s.inFlight.eraseIdx place) + w.weight = totalWeight s.inFlight := by
  obtain ⟨w, hp, hy⟩ := ha
  obtain ⟨before, after, hsplit, rfl⟩ := split_of_getElem? hp
  refine ⟨w, List.mem_of_getElem? hp, hy, ?_⟩
  rw [hsplit, eraseIdx_split, totalWeight_append, totalWeight_append, totalWeight_cons]
  omega

/-- A completion takes from the weight of the work in flight. -/
theorem weight_settle_lt (ha : s.Allows (.settle place done)) :
    totalWeight (s.step (.settle place done)).inFlight < totalWeight s.inFlight := by
  obtain ⟨w, -, hy, hweight⟩ := allows_settle ha
  have hle := (weight_apply s.panel hy).1
  rw [step, totalWeight_append]
  omega

/-- It takes one where all work in flight is for tabs that there are. -/
theorem weight_settle (hs : ∀ w ∈ s.inFlight, w.index < s.panel.tabs.length)
    (ha : s.Allows (.settle place done)) :
    totalWeight (s.step (.settle place done)).inFlight + 1 = totalWeight s.inFlight := by
  obtain ⟨w, hw, hy, hweight⟩ := allows_settle ha
  have heq := (weight_apply s.panel hy).2 (hs w hw)
  rw [step, totalWeight_append]
  omega

/-- Any work in flight may be complete next. -/
theorem exists_settle (hs : s.inFlight ≠ []) :
    ∃ place done, s.Allows (.settle place done) := by
  obtain ⟨w, rest, hwork⟩ := List.exists_cons_of_ne_nil hs
  have hp : s.inFlight[0]? = some w := by rw [hwork, List.getElem?_cons_zero]
  cases w with
  | load i ticket daemon queries =>
    -- A daemon that is done with everything answers every call of the load.
    let report : Tab.Report := ⟨queries.map fun q => ⟨q.method, .done⟩⟩
    refine ⟨0, .loaded i ticket report, _, hp, .load ?_⟩
    rw [List.map_map]
    rfl
  | change i mutation => exact ⟨0, .changed i .done, _, hp, .change⟩

/-- Work that makes work is for a tab that there is, and so is all work that it makes. -/
theorem inRange_settle (hs : ∀ w ∈ s.inFlight, w.index < s.panel.tabs.length)
    (ha : s.Allows (.settle place done)) :
    ∀ w ∈ (s.step (.settle place done)).inFlight, w.index < s.panel.tabs.length := by
  obtain ⟨v, hv, hy, -⟩ := allows_settle ha
  intro w hw
  rcases List.mem_append.mp hw with hw | hw
  · exact hs w (List.mem_of_mem_eraseIdx hw)
  · rw [(work_apply hw).1, hy.index_eq]
    exact hs v hv

end Session

/-! ### A move of a session -/

namespace Course

variable {x : Course} {now : Time.Instant}

/-- What is sent with a move takes nothing from the work in flight. -/
theorem inFlight_after (x : Course) (now : Time.Instant) (m : Move) :
    (x.after now m).session.inFlight = (x.session.step m).inFlight := by
  rw [session_after, flush_fst]

/-- The work that a command makes adds to the weight what the command is taken for. -/
theorem weight_receive (x : Course) (now : Time.Instant) (c : Command) :
    totalWeight (x.after now (.receive c)).session.inFlight =
      totalWeight x.session.inFlight +
        (x.session.panel.routeOf c).completions x.session.panel.tabs.length := by
  rw [inFlight_after, step, totalWeight_append, totalWeight_dispatch]

/-- Work that starts is no work that ends. -/
theorem countP_isEnd_started (work : List Work) :
    (work.map Event.started).countP (·.isEnd) = 0 := by
  rw [List.countP_eq_zero]
  intro e he
  obtain ⟨w, -, rfl⟩ := List.mem_map.mp he
  simp [Event.isEnd]

/-- A command that comes completes nothing. -/
theorem completions_receive (x : Course) (now : Time.Instant) (c : Command) :
    (x.after now (.receive c)).completions = x.completions := by
  show (x.log ++ x.session.events (.receive c)).countP _ = _
  rw [List.countP_append, events, List.countP_cons, countP_isEnd_started]
  rfl

/-- Work that is settled is one completion. -/
theorem completions_settle (x : Course) (now : Time.Instant) (place : Nat) (done : Completion) :
    (x.after now (.settle place done)).completions = x.completions + 1 := by
  show (x.log ++ x.session.events (.settle place done)).countP _ = _
  rw [List.countP_append, events, List.countP_cons, countP_isEnd_started]
  rfl

/-- The end of listening completes nothing. -/
theorem completions_close (x : Course) (now : Time.Instant) :
    (x.after now .close).completions = x.completions := by
  show (x.log ++ x.session.events .close).countP _ = _
  rw [events, List.append_nil]
  rfl

/-- Work that starts is not mistaken for work that ends. -/
theorem ended_not_mem_started (work : List Work) {done : Completion} {taken : Bool} :
    .ended done taken ∉ work.map Event.started := by
  intro h
  obtain ⟨w, -, hw⟩ := List.mem_map.mp h
  cases hw

/-- With a move nothing ends but the work whose completion it is. -/
theorem ended_after {m : Move} {done : Completion} {taken : Bool}
    (h : .ended done taken ∈ (x.after now m).log) :
    .ended done taken ∈ x.log ∨ ∃ place, m = .settle place done := by
  rcases List.mem_append.mp h with h | h
  · exact .inl h
  right
  -- What a move adds to the log is what it is, and the work that starts with it.
  cases m with
  | receive c =>
    rcases List.mem_cons.mp h with h | h
    · cases h
    · exact absurd h (ended_not_mem_started _)
  | settle place d =>
    rcases List.mem_cons.mp h with h | h
    · cases h
      exact ⟨place, rfl⟩
    · exact absurd h (ended_not_mem_started _)
  | close => cases h

end Course

/-! ### No session goes on for ever -/

namespace Agenda

variable {a b : Agenda} {p : Panel} {commands : List Command}

/-- What is still to happen: the completions of the work in flight, the commands that are to come
    with all that they may lead to, and the end of listening. -/
def weight (a : Agenda) : Nat :=
  totalWeight a.course.session.inFlight +
    a.waiting.length * (a.course.session.panel.tabs.length + 3) +
      if a.course.listening then 1 else 0

/-- With every move less is still to happen. -/
theorem Next.weight_lt (h : a.Next b) : b.weight < a.weight := by
  cases h with
  | @receive c rest now hl hw =>
    have hwork := a.course.weight_receive now c
    have hle := (a.course.session.panel.routeOf c).completions_le
      a.course.session.panel.tabs.length
    have hlisten : (a.course.after now (.receive c)).listening = a.course.listening := rfl
    -- A command that waits weighs more than all that it may lead to.
    rw [weight, weight, hwork, Course.length_after, hlisten, hw, List.length_cons, Nat.succ_mul]
    dsimp only
    omega
  | @settle place done now ha =>
    have hlt := weight_settle_lt ha
    have hlisten : (a.course.after now (.settle place done)).listening = a.course.listening := rfl
    rw [weight, weight, Course.inFlight_after, Course.length_after, hlisten]
    dsimp only
    omega
  | close now hl hw =>
    have hlisten : (a.course.after now .close).listening = false := rfl
    have hwork : (a.course.session.step .close).inFlight = a.course.session.inFlight := rfl
    rw [weight, weight, Course.inFlight_after, Course.length_after, hlisten, hl, hwork]
    simp

/-- No session goes on for ever, whatever comes of its work and in whatever order. -/
theorem wellFounded_next : WellFounded fun b a : Agenda => a.Next b :=
  Subrelation.wf (fun h => h.weight_lt) (measure weight).wf

/-- A session goes on until it is over. -/
theorem exists_next_or_over (a : Agenda) : (∃ b, a.Next b) ∨ a.course.Over := by
  by_cases hfly : a.course.session.inFlight = []
  · cases hl : a.course.listening with
    | false => exact .inr ⟨hl, hfly⟩
    | true =>
      -- Either a command is still to come, or it turns out that none is.
      cases hw : a.waiting with
      | nil => exact .inl ⟨_, .close ⟨0, 0⟩ hl hw⟩
      | cons c rest => exact .inl ⟨_, .receive ⟨0, 0⟩ hl hw⟩
  · obtain ⟨place, done, ha⟩ := exists_settle hfly
    exact .inl ⟨_, .settle ⟨0, 0⟩ ha⟩

/-- Once a session is over nothing more happens. -/
theorem not_next_of_over (ho : a.course.Over) : ¬ a.Next b := by
  obtain ⟨hl, hfly⟩ := ho
  intro h
  cases h with
  | receive now hl' => exact absurd (hl'.symm.trans hl) (by decide)
  | close now hl' => exact absurd (hl'.symm.trans hl) (by decide)
  | settle now ha =>
    obtain ⟨w, hp, -⟩ := ha
    rw [hfly] at hp
    cases hp

/-! ### The books of a session -/

/-- How many completions the commands lead to that came so far. -/
def due (a : Agenda) (tabs : Nat) : Nat := (a.routes.map (·.completions tabs)).sum

/-- What is known at any time of a session on a panel. -/
structure Accounted (p : Panel) (commands : List Command) (a : Agenda) : Prop where
  tabs : a.course.session.panel.tabs.length = p.tabs.length
  inRange : ∀ w ∈ a.course.session.inFlight, w.index < p.tabs.length
  ended : ∀ done taken, .ended done taken ∈ a.course.log → done.index < p.tabs.length
  /-- All completions so far, and those that the work in flight leads to, are those of the first
      loads and of the commands that came. -/
  balance : a.course.completions + totalWeight a.course.session.inFlight =
    p.tabs.length + a.due p.tabs.length
  came : a.routes.length + a.waiting.length = commands.length
  closed : a.course.listening = false → a.waiting = []

/-- At first the loads of all tabs are in flight, and no command came. -/
theorem Accounted.first (p : Panel) (commands : List Command) (now : Time.Instant) :
    Accounted p commands (.first p commands now) where
  tabs := by simp [Agenda.first, Course.first, start, beginAll_eq]
  inRange := p.beginAll_moves.inRange
  ended _ _ h := absurd h (Course.ended_not_mem_started _)
  balance := by
    have hnone : (Agenda.first p commands now).course.completions = 0 :=
      Course.countP_isEnd_started _
    have hall : totalWeight (Agenda.first p commands now).course.session.inFlight =
        p.tabs.length := p.totalWeight_beginAll
    rw [hnone, hall]
    exact Nat.add_comm ..
  came := by simp [Agenda.first]
  closed h := by cases h

/-- A command that comes adds to what is due as much as its work weighs. -/
theorem Accounted.receive (h : Accounted p commands a) {c : Command} {rest : List Command}
    (now : Time.Instant) (hl : a.course.listening = true) (hw : a.waiting = c :: rest) :
    Accounted p commands
      { waiting := rest
        routes := a.routes ++ [a.course.session.panel.routeOf c]
        course := a.course.after now (.receive c) } where
  tabs := (a.course.length_after now _).trans h.tabs
  inRange w hmem := by
    rw [Course.inFlight_after] at hmem
    rcases List.mem_append.mp hmem with hmem | hmem
    · exact h.inRange w hmem
    · rw [← h.tabs]
      exact (a.course.session.panel.dispatch_moves c).inRange w hmem
  ended done taken hmem := by
    rcases Course.ended_after hmem with hmem | ⟨_, hm⟩
    · exact h.ended done taken hmem
    · cases hm
  balance := by
    -- The weight of the new work is what the command adds to what is due.
    rw [a.course.weight_receive, a.course.completions_receive, due, List.map_append,
      List.sum_append, h.tabs, ← Nat.add_assoc, h.balance, Nat.add_assoc]
    simp [due]
  came := by
    have hcame := h.came
    rw [hw, List.length_cons] at hcame
    rw [List.length_append, List.length_singleton]
    dsimp only
    omega
  closed hclosed := absurd (hl.symm.trans hclosed) (by decide)

/-- A completion takes from the work in flight what it adds to the completions so far. -/
theorem Accounted.settle (h : Accounted p commands a) {place : Nat} {done : Completion}
    (now : Time.Instant) (ha : a.course.session.Allows (.settle place done)) :
    Accounted p commands { a with course := a.course.after now (.settle place done) } := by
  have hrange : ∀ w ∈ a.course.session.inFlight,
      w.index < a.course.session.panel.tabs.length := by
    rw [h.tabs]
    exact h.inRange
  refine ⟨(a.course.length_after now _).trans h.tabs, ?_, ?_, ?_, h.came, h.closed⟩
  · rw [Course.inFlight_after, ← h.tabs]
    exact inRange_settle hrange ha
  · intro done' taken hmem
    rcases Course.ended_after hmem with hmem | ⟨_, hm⟩
    · exact h.ended done' taken hmem
    · -- What ends here was in flight.
      cases hm
      obtain ⟨w, hw, hy, -⟩ := allows_settle ha
      rw [hy.index_eq]
      exact h.inRange w hw
  · -- What is in flight loses the weight of the completion, which is counted instead.
    have hweight := weight_settle hrange ha
    have hbalance := h.balance
    rw [Course.inFlight_after, a.course.completions_settle]
    show _ = p.tabs.length + a.due p.tabs.length
    omega

/-- That no more commands will come is known only when all of them came. -/
theorem Accounted.close (h : Accounted p commands a) (now : Time.Instant) (hw : a.waiting = []) :
    Accounted p commands { a with course := a.course.after now .close } where
  tabs := (a.course.length_after now _).trans h.tabs
  inRange := by
    rw [Course.inFlight_after]
    exact h.inRange
  ended done taken hmem := by
    rcases Course.ended_after hmem with hmem | ⟨_, hm⟩
    · exact h.ended done taken hmem
    · cases hm
  balance := by
    rw [Course.inFlight_after, a.course.completions_close]
    exact h.balance
  came := h.came
  closed _ := hw

/-- Every move keeps the books. -/
theorem Accounted.next (h : Accounted p commands a) (hn : a.Next b) : Accounted p commands b := by
  cases hn with
  | receive now hl hw => exact h.receive now hl hw
  | settle now ha => exact h.settle now ha
  | close now hl hw => exact h.close now hw

/-- The completions that are due, by what the commands were taken for. -/
theorem due_eq (a : Agenda) (tabs : Nat) :
    a.due tabs = a.routes.count .reload + 2 * a.routes.count .change +
      a.routes.count .refreshAll * tabs := by
  unfold due
  induction a.routes with
  | nil => simp
  | cons r routes ih =>
    rw [List.map_cons, List.sum_cons, ih]
    cases r <;> simp [Route.completions, Nat.add_mul] <;> omega

end Agenda

/-! ### What becomes of the tabs -/

/-- A load ended, well or not. -/
def Tab.Phase.IsOutcome (phase : Phase) : Prop := phase = .loaded ∨ phase = .errored

/-- A load that is applied ended, well or not. -/
theorem Tab.LoadState.isOutcome_apply {σ : Type} (s : LoadState σ) (report : Report)
    (normalize : Report → σ) : (s.apply report normalize).phase.IsOutcome := by
  cases hr : report.anySuccess with
  | true =>
    rw [s.apply_of_success hr]
    exact .inl rfl
  | false =>
    rw [s.apply_of_failure hr]
    exact .inr rfl

/-- The load of a tab that began last ends, well or not. -/
theorem Tab.isOutcome_complete (t : Tab) (report : Report) :
    (t.complete t.status.issued report).2.status.phase.IsOutcome := by
  cases t <;>
    simp only [complete, status, LoadState.status, LoadState.complete_current] <;>
    exact LoadState.isOutcome_apply ..

/-- Tabs that are alike are in the same phase. -/
theorem Tab.Alike.phase_eq {t t' : Tab} (h : t.Alike t') :
    t'.status.phase = t.status.phase := by
  cases h <;> (obtain ⟨n, hn⟩ := ‹LoadState.Alike _ _›; simp [status, LoadState.status, hn])

/-- The load that began last is in flight, or it ended, well or not. -/
def Share.Settled (i : Nat) (s : Share) : Prop :=
  (∃ daemon queries, .load i s.tab.status.issued daemon queries ∈ s.inFlight) ∨
    s.tab.status.phase.IsOutcome

/-- A load that begins is in flight. -/
theorem Share.settled_begin (i : Nat) (t : Tab) (work : List Work) (log : List Event) :
    Settled i ⟨t.begin.2, work ++ [t.loadWork i], log⟩ := by
  refine .inl ⟨t.daemon, t.queries, List.mem_append_right _ ?_⟩
  rw [Tab.loadWork, t.begin_fst, ← t.issued_begin]
  exact List.mem_singleton_self _

/-- A step leaves the latest load in flight or ended. -/
theorem Share.Step.settled {i : Nat} {signals : List String} {s s' : Share}
    (hstep : Share.Step i signals s s') (h : s.Settled i) : s'.Settled i := by
  cases hstep with
  | rest => exact h
  | asks => exact h.imp_left fun ⟨d, q, hw⟩ => ⟨d, q, List.mem_append_left _ hw⟩
  | redraw ha =>
    rw [Share.Settled, ha.issued_eq, ha.phase_eq]
    exact h
  | reload => exact Share.settled_begin ..
  | apply => exact .inr (s.tab.isOutcome_complete _)
  | change => exact Share.settled_begin ..
  | stale hw ht => exact h.imp_left fun ⟨d, q, hmem⟩ => ⟨d, q, latest_stays hw ht hmem⟩

/-- In a session a tab of which nothing is in flight was loaded, or failed to load. -/
theorem Agenda.settled {p : Panel} {commands : List Command} {now : Time.Instant} {a : Agenda}
    (ha : ReflTransGen Next (first p commands now) a) {i : Nat} {s : Share}
    (hs : a.course.share? i = some s) : s.Settled i := by
  induction ha generalizing s with
  | refl =>
    obtain ⟨t, -, rfl⟩ := share?_first hs
    exact Share.settled_begin i t [] _
  | tail _ hnext ih =>
    -- Whatever the move is, for the share of the tab it is a step.
    cases hnext with
    | receive =>
      obtain ⟨s₀, hs₀, hstep⟩ := share_of_after (m := .receive _) trivial hs
      exact hstep.settled (ih hs₀)
    | settle now ha =>
      obtain ⟨s₀, hs₀, hstep⟩ := share_of_after ha hs
      exact hstep.settled (ih hs₀)
    | close =>
      obtain ⟨s₀, hs₀, hstep⟩ := share_of_after (m := .close) trivial hs
      exact hstep.settled (ih hs₀)

/-! ### A single command -/

namespace Session

/-- The work of a command is not carried out for ever, in whatever order it ends. -/
theorem wellFounded_drains : WellFounded fun s' s : Session => s.Drains s' := by
  refine Subrelation.wf (fun {s' s} h => ?_) (measure fun s => totalWeight s.inFlight).wf
  cases h with
  | settle ha => exact weight_settle_lt ha

/-- Work goes on until none is in flight. -/
theorem exists_drains_iff (s : Session) : (∃ s', s.Drains s') ↔ s.inFlight ≠ [] := by
  constructor
  · rintro ⟨s', ⟨w, hp, -⟩⟩ hnil
    rw [hnil] at hp
    cases hp
  · intro hfly
    obtain ⟨place, done, ha⟩ := exists_settle hfly
    exact ⟨_, .settle ha⟩

/-- All work of a command is for tabs that there are. -/
theorem inRange_drains {p : Panel} {c : Command} {s : Session}
    (hs : ReflTransGen Drains (ofCommand p c) s) :
    s.panel.tabs.length = p.tabs.length ∧ ∀ w ∈ s.inFlight, w.index < p.tabs.length := by
  induction hs with
  | refl => exact ⟨(p.dispatch_moves c).length, (p.dispatch_moves c).inRange⟩
  | tail _ hnext ih =>
    obtain ⟨hlen, hrange⟩ := ih
    cases hnext with
    | settle ha =>
      refine ⟨(length_apply ..).trans hlen, ?_⟩
      rw [← hlen] at hrange ⊢
      exact inRange_settle hrange ha

end Session

/-- A load brings an outcome for each of its calls, in their order. -/
theorem Tab.methods_fetch (d : Daemon) (queries : List Query) (r : Rehearsal) :
    ((fetch d queries : StateM Rehearsal Report).run r).1.outcomes.map (·.method) =
      queries.map (·.method) := by
  show (((queries.mapM fun q => do
    return (⟨q.method, ← World.call d q.method q.params⟩ : Outcome) :
      StateM Rehearsal (List Outcome)).run r).1).map (·.method) = _
  induction queries generalizing r with
  | nil => rfl
  | cons q queries ih =>
    rw [List.mapM_cons, List.map_cons]
    exact congrArg (q.method :: ·)
      (ih { r with script := (r.script.answer d q.method q.params).2 })

/-- The panel carries out work by completions, one after the other, until none is in flight. -/
theorem Panel.drains_drain (p : Panel) (work : List Work) (r : Rehearsal) :
    ReflTransGen Drains { panel := p, inFlight := work }
      { panel := ((p.drain work : StateM Rehearsal Panel).run r).1 } := by
  match work with
  | [] =>
    rw [drain]
    exact .refl
  | .load i ticket daemon queries :: rest =>
    let fetched := (Tab.fetch daemon queries : StateM Rehearsal Tab.Report).run r
    let applied := p.applyReport i ticket fetched.1
    -- The first piece of work in flight is the one that is complete first.
    have hfirst : Drains { panel := p, inFlight := .load i ticket daemon queries :: rest }
        { panel := applied.panel, inFlight := rest ++ applied.work } :=
      @Drains.settle _ 0 _ ⟨_, rfl, .load (Tab.methods_fetch daemon queries r)⟩
    rw [work_applyReport, List.append_nil] at hfirst
    have hrest := drains_drain applied.panel rest
      ((World.noteAll applied.notices : StateM Rehearsal Unit).run fetched.2).2
    rw [drain]
    exact hrest.head hfirst
  | .change i mutation :: rest =>
    let performed := (mutation.perform : StateM Rehearsal Reply).run r
    let applied := p.applyChange i
    have hfirst : Drains { panel := p, inFlight := .change i mutation :: rest }
        { panel := applied.panel, inFlight := rest ++ applied.work } :=
      @Drains.settle _ 0 (.changed i performed.1) ⟨_, rfl, .change⟩
    have hrest := drains_drain applied.panel (rest ++ applied.work) performed.2
    rw [drain]
    exact hrest.head hfirst
termination_by totalWeight work
decreasing_by
  · simp [Work.weight]
  · -- A mutation weighs more than the load that follows it.
    have hle := totalWeight_applyChange_le p i
    simp only [totalWeight_append, totalWeight_cons, Work.weight]
    omega

/-- A session ends, whatever comes of its work and in whatever order. Every piece of work that was
    complete was for a tab that there is. As long as the session is not over something more may
    happen; when it is over, all commands have come and no work is in flight, there were as many
    completions as there are tabs, one more for each command that loads a tab, two for each mutation
    and as many as there are tabs for each command that loads them all, and every tab was loaded or
    failed to load. The work of a single command comes to its end as well, in whatever order, and
    so it does where the panel carries it out. -/
theorem every_session_ends (p : Panel) (commands : List Command) (now : Time.Instant) :
    (WellFounded fun b a : Agenda => a.Next b) ∧
    (∀ a, ReflTransGen Agenda.Next (.first p commands now) a →
      (∀ done taken, .ended done taken ∈ a.course.log → done.index < p.tabs.length) ∧
      ((¬ ∃ b, a.Next b) ↔ a.course.Over) ∧
      (a.course.Over →
        a.waiting = [] ∧ a.routes.length = commands.length ∧
        a.course.completions =
          p.tabs.length + a.routes.count .reload + 2 * a.routes.count .change +
            a.routes.count .refreshAll * p.tabs.length ∧
        ∀ t ∈ a.course.session.panel.tabs,
          t.status.phase = .loaded ∨ t.status.phase = .errored)) ∧
    (WellFounded fun s' s : Session => s.Drains s') ∧
    ∀ c,
      (∀ s, ReflTransGen Drains (ofCommand p c) s →
        (∀ w ∈ s.inFlight, w.index < s.panel.tabs.length) ∧
        ((¬ ∃ s', s.Drains s') ↔ s.inFlight = [])) ∧
      ∀ r : Rehearsal, ReflTransGen Drains (ofCommand p c)
        { panel := ((p.handle c : StateM Rehearsal (Bool × Panel)).run r).1.2, inFlight := [] } := by
  refine ⟨Agenda.wellFounded_next, fun a ha => ?_, wellFounded_drains, fun c => ⟨fun s hs => ?_, ?_⟩⟩
  · have hbooks : Agenda.Accounted p commands a := by
      induction ha with
      | refl => exact .first p commands now
      | tail _ hnext ih => exact ih.next hnext
    refine ⟨hbooks.ended, ⟨fun hend => a.exists_next_or_over.resolve_left hend, ?_⟩, ?_⟩
    · rintro ho ⟨b, hb⟩
      exact Agenda.not_next_of_over ho hb
    · rintro ⟨hl, hfly⟩
      have hwaiting := hbooks.closed hl
      have hcame := hbooks.came
      have hbalance := hbooks.balance
      rw [hwaiting, List.length_nil] at hcame
      rw [hfly, totalWeight_nil, a.due_eq] at hbalance
      refine ⟨hwaiting, hcame, by omega, fun t ht => ?_⟩
      obtain ⟨i, ht⟩ := List.mem_iff_getElem?.mp ht
      -- No load is in flight, so the one that began last ended.
      rcases Agenda.settled ha (Course.share?_of_tab ht) with ⟨daemon, queries, hw⟩ | hphase
      · rw [Course.inFlightAt, hfly] at hw
        cases hw
      · exact hphase
  · obtain ⟨hlen, hrange⟩ := inRange_drains hs
    rw [← hlen] at hrange
    exact ⟨hrange, by rw [s.exists_drains_iff, not_not]⟩
  · intro r
    exact (p.dispatch c).panel.drains_drain (p.dispatch c).work
      ((World.noteAll (p.dispatch c).notices : StateM Rehearsal Unit).run r).2

end Dashboard
