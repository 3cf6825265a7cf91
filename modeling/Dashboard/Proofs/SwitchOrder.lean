import Dashboard.Panel.Site
import Dashboard.Proofs.TabShare
import Mathlib.Data.List.InsertIdx
/-!
# Commands that overtake each other

A mutation is in flight as soon as its command comes, whatever else is in flight. What two mutations
leave at their daemon depends on the order in which they take effect.

* `Site.Holds`, `Site.Next.holds` — what is kept as long as no older mutation can undo the last one.
* `Site.finish`, `Site.isolate`, `Site.drain` — any work in flight may be complete next.
* `last_switch_wins_iff` — when the last command has the last word.
-/

namespace Dashboard

open Panel Relation

namespace Site

/-! ### Moves -/

@[simp] theorem Call.work_start (work : Work) : (Call.start work).work = work := rfl

/-- A load has no effect. -/
theorem Call.pending?_of_isLoad {c : Call} (h : c.work.isLoad = true) : c.pending? = none := by
  unfold pending?
  split
  · rename_i hwork
    simp [hwork, Work.isLoad] at h
  · rfl

/-- A mutation takes effect once. -/
@[simp] theorem Call.pending?_effective (work : Work) :
    (Call.mk work true).pending? = none := by
  cases work <;> rfl

/-- What is still to take effect was asked for. -/
theorem Call.pending?_start {work : Work} {m : Tab.Mutation}
    (h : (Call.start work).pending? = some m) : ∃ i, work = .change i m := by
  cases work with
  | load => cases h
  | change i m' =>
    obtain rfl : m' = m := Option.some.inj h
    exact ⟨i, rfl⟩

variable {a b z : Site} {now : Time.Instant}

/-- What is still to take effect is still in flight after a move of the session. -/
theorem mem_calls_own {m : Session.Move} (ha : a.Allows (.own m)) {c : Call} (hc : c ∈ a.calls)
    {mutation : Tab.Mutation} (hp : c.pending? = some mutation) :
    c ∈ (a.after now (.own m)).calls := by
  refine List.mem_append_left _ ?_
  cases m with
  | receive | close => exact hc
  | settle place done =>
    -- The call that is complete has taken effect, so it is another one.
    obtain ⟨⟨w, hw, -⟩, heffective⟩ := ha
    obtain ⟨d, hd, -⟩ := Option.map_eq_some_iff.mp (List.getElem?_map .. ▸ hw)
    obtain ⟨before, after, hsplit, hplace⟩ := split_of_getElem? hd
    have hne : c ≠ d := by
      rintro rfl
      simp [hd, hp] at heffective
    rw [hsplit] at hc
    rw [Session.Move.leaves, hsplit, ← hplace, eraseIdx_split]
    simpa [hne] using hc

/-- What is in flight after a move of the session was in flight before, or the move made it. -/
theorem calls_own {m : Session.Move} {c : Call} (hc : c ∈ (a.after now (.own m)).calls) :
    c ∈ a.calls ∨ ∃ w ∈ a.session.made m, c = .start w := by
  rcases List.mem_append.mp hc with hc | hc
  · left
    cases m with
    | receive | close => exact hc
    | settle place done => exact List.mem_of_mem_eraseIdx hc
  · obtain ⟨w, hw, rfl⟩ := List.mem_map.mp hc
    exact .inr ⟨w, hw, rfl⟩

/-- A mutation takes effect. -/
theorem after_effect (now : Time.Instant) {before after : List Call} {c : Call}
    (h : a.calls = before ++ c :: after) :
    a.after now (.effect before.length) =
      { a with
        calls := before ++ ⟨c.work, true⟩ :: after
        effects := a.effects ++ c.pending?.toList } := by
  simp [Site.after, h]

/-! ### What is kept while the last mutation cannot be undone -/

section Watched

variable {α : Type} {sets? : Tab.Mutation → Option α} {v : α}

/-- An effect that sets what is watched is the last, and any other leaves the last as it is. -/
theorem lastSet?_snoc (effects : List Tab.Mutation) (m : Tab.Mutation) :
    lastSet? sets? (effects ++ [m]) = (sets? m).or (lastSet? sets? effects) := by
  cases hm : sets? m <;> simp [lastSet?, List.filterMap_append, hm]

/-- Whatever is still to be set is one value, and this is still to be set or was set last. -/
structure Holds (sets? : Tab.Mutation → Option α) (v : α) (a : Site) : Prop where
  agree : ∀ c ∈ a.calls, ∀ m u, c.pending? = some m → sets? m = some u → u = v
  due : (∃ c ∈ a.calls, ∃ m, c.pending? = some m ∧ sets? m = some v) ∨
    lastSet? sets? a.effects = some v

/-- A move of the panel that asks for no change of what is watched keeps this. -/
theorem Holds.own (h : Holds sets? v a) {m : Session.Move} (ha : a.Allows (.own m))
    (hq : a.Quiet sets? (.own m)) : Holds sets? v (a.after now (.own m)) where
  agree c hc mutation u hp hu := by
    rcases calls_own hc with hc | ⟨w, hw, rfl⟩
    · exact h.agree c hc mutation u hp hu
    · obtain ⟨i, rfl⟩ := Call.pending?_start hp
      simp [hq i mutation hw] at hu
  due := h.due.imp_left fun ⟨c, hc, mutation, hp, hv⟩ =>
    ⟨c, mem_calls_own ha hc hp, mutation, hp, hv⟩

/-- A mutation that takes effect sets the one value or nothing that is watched, so it keeps this
    too. -/
theorem Holds.effect (h : Holds sets? v a) {place : Nat} (ha : a.Allows (.effect place)) :
    Holds sets? v (a.after now (.effect place)) := by
  obtain ⟨m, hm⟩ := Option.isSome_iff_exists.mp ha
  obtain ⟨c, hc, hp⟩ := Option.bind_eq_some_iff.mp hm
  obtain ⟨before, after, hsplit, rfl⟩ := split_of_getElem? hc
  have hmem : c ∈ a.calls := List.mem_of_getElem? hc
  rw [after_effect now hsplit]
  constructor
  · intro d hd m' u hp' hu
    rw [List.mem_append, List.mem_cons] at hd
    rcases hd with hd | rfl | hd
    · exact h.agree d (by simp [hsplit, hd]) m' u hp' hu
    · simp at hp'
    · exact h.agree d (by simp [hsplit, hd]) m' u hp' hu
  · rw [hp, Option.toList_some, lastSet?_snoc]
    cases hu : sets? m with
    | some u =>
      obtain rfl := h.agree c hmem m u hp hu
      exact .inr rfl
    | none =>
      -- The mutation sets nothing, so what is due is another one or was set before.
      refine h.due.imp (fun ⟨d, hd, m', hp', hv⟩ => ?_) id
      have hne : d ≠ c := by
        rintro rfl
        rw [hp] at hp'
        obtain rfl := Option.some.inj hp'
        simp [hu] at hv
      rw [hsplit] at hd
      refine ⟨d, ?_, m', hp', hv⟩
      simp only [List.mem_append, List.mem_cons, hne, false_or] at hd ⊢
      exact hd.imp_right .inr

/-- One move more keeps it. -/
theorem Next.holds (hn : Next sets? a b) (h : Holds sets? v a) : Holds sets? v b := by
  obtain ⟨now, m, ha, hq⟩ := hn
  cases m with
  | own m => exact h.own ha hq
  | effect place => exact h.effect ha

/-- It holds of every site that such moves reach. -/
theorem Holds.of_reaches (h : Holds sets? v a) (hz : ReflTransGen (Next sets?) a z) :
    Holds sets? v z := by
  induction hz with
  | refl => exact h
  | tail _ hn ih => exact hn.holds ih

/-! ### Any work in flight may be complete next -/

/-- Some completion of a piece of work. -/
def answered : Work → Completion
  | .load i ticket _ queries => .loaded i ticket ⟨queries.map fun q => ⟨q.method, .done⟩⟩
  | .change i _ => .changed i .done

/-- Every piece of work has some completion. -/
theorem yields_answered (w : Work) : w.Yields (answered w) := by
  cases w with
  | load => exact .load (by simp [Function.comp_def])
  | change => exact .change

/-- How many completions some calls lead to. -/
def weight (calls : List Call) : Nat := totalWeight (calls.map (·.work))

/-- Work that is complete makes lighter work. -/
theorem totalWeight_apply_answered (p : Panel) (w : Work) :
    totalWeight (p.apply (answered w)).work < w.weight := by
  cases w with
  | load => simp [answered, apply, Work.weight]
  | change i m =>
    have := totalWeight_applyChange_le p i
    simp only [answered, apply, Work.weight]
    omega

variable (sets?)

/-- A call that has taken effect may be complete next. -/
theorem settle_next {before after : List Call} {c : Call} (hsplit : a.calls = before ++ c :: after)
    (hp : c.pending? = none) :
    ∃ z more, Next sets? a z ∧ z.calls = before ++ after ++ more ∧
      (∀ d ∈ more, d.pending? = none) ∧ weight more < c.work.weight ∧ z.effects = a.effects := by
  have hplace : a.calls[before.length]? = some c := by simp [hsplit]
  let m : Session.Move := .settle before.length (answered c.work)
  have hloads : ∀ w ∈ a.session.made m, w.isLoad = true := fun w hw => (work_apply hw).2
  have ha : a.Allows (.own m) := by
    refine ⟨⟨c.work, ?_, yields_answered c.work⟩, ?_⟩
    · simp [session, hplace]
    · show (a.calls[before.length]?.bind Call.pending?).isNone = true
      simp [hplace, hp]
  have hq : a.Quiet sets? (.own m) := fun i mutation hmade => by
    have := hloads _ hmade
    simp [Work.isLoad] at this
  -- All work that is made are loads, which have no effect to wait for.
  refine ⟨_, (a.session.made m).map .start, .move ⟨0, 0⟩ (.own m) ha hq, ?_, ?_, ?_, rfl⟩
  · show a.calls.eraseIdx before.length ++ _ = _
    rw [hsplit, eraseIdx_split]
  · intro d hd
    obtain ⟨w, hw, rfl⟩ := List.mem_map.mp hd
    exact Call.pending?_of_isLoad (hloads w hw)
  · have hwork : ((a.session.made m).map Call.start).map (·.work) = a.session.made m := by
      simp [Function.comp_def]
    rw [weight, hwork]
    exact totalWeight_apply_answered a.panel c.work

/-- Any call may take effect next, if it is to, and be complete. -/
theorem finish {before after : List Call} {c : Call} (hsplit : a.calls = before ++ c :: after) :
    ∃ z more, ReflTransGen (Next sets?) a z ∧ z.calls = before ++ after ++ more ∧
      (∀ d ∈ more, d.pending? = none) ∧ weight more < c.work.weight ∧
      z.effects = a.effects ++ c.pending?.toList := by
  cases hp : c.pending? with
  | none =>
    obtain ⟨z, more, hz, hcalls, hnone, hweight, heffects⟩ := settle_next sets? hsplit hp
    exact ⟨z, more, .single hz, hcalls, hnone, hweight, by simpa using heffects⟩
  | some m =>
    -- First it takes effect, and then it may be complete.
    have hplace : a.calls[before.length]? = some c := by simp [hsplit]
    have ha : a.Allows (.effect before.length) := by simp [Allows, hplace, hp]
    have hnext : Next sets? a (a.after ⟨0, 0⟩ (.effect before.length)) := .move _ _ ha trivial
    have hafter := after_effect ⟨0, 0⟩ hsplit
    obtain ⟨z, more, hz, hcalls, hnone, hweight, heffects⟩ :=
      settle_next sets? (congrArg Site.calls hafter) (Call.pending?_effective c.work)
    refine ⟨z, more, .head hnext (.single hz), hcalls, hnone, hweight, ?_⟩
    rw [heffects, hafter, hp]

theorem weight_append (calls more : List Call) :
    weight (calls ++ more) = weight calls + weight more := by
  simp [weight]

theorem weight_cons (c : Call) (calls : List Call) :
    weight (c :: calls) = c.work.weight + weight calls := by
  simp [weight]

/-- All calls but one may be complete. -/
theorem isolate {before after : List Call} {c : Call} (hsplit : a.calls = before ++ c :: after) :
    ∃ z, ReflTransGen (Next sets?) a z ∧ z.calls = [c] := by
  -- The induction is on what the other calls weigh.
  induction hn : weight before + weight after using Nat.strongRecOn generalizing a before after with
  | _ n ih =>
    subst hn
    match before, after with
    | [], [] => exact ⟨a, .refl, hsplit⟩
    | d :: before, after =>
      have hhead : a.calls = [] ++ d :: (before ++ c :: after) := hsplit
      obtain ⟨y, more, hy, hcalls, -, hweight, -⟩ := finish sets? hhead
      have hsplit' : y.calls = before ++ c :: (after ++ more) := by simpa using hcalls
      obtain ⟨z, hz, hz'⟩ := ih _ (by simp only [weight_cons, weight_append]; omega) hsplit' rfl
      exact ⟨z, hy.trans hz, hz'⟩
    | [], d :: after =>
      have hnext : a.calls = [c] ++ d :: after := hsplit
      obtain ⟨y, more, hy, hcalls, -, hweight, -⟩ := finish sets? hnext
      have hsplit' : y.calls = [] ++ c :: (after ++ more) := by simpa using hcalls
      obtain ⟨z, hz, hz'⟩ := ih _ (by simp only [weight_cons, weight_append]; omega) hsplit' rfl
      exact ⟨z, hy.trans hz, hz'⟩

/-- Calls that have all taken effect may all be complete. -/
theorem drain (hp : ∀ c ∈ a.calls, c.pending? = none) :
    ∃ z, ReflTransGen (Next sets?) a z ∧ z.calls = [] ∧ z.effects = a.effects := by
  -- What a completion makes weighs less than what it completes.
  induction hn : weight a.calls using Nat.strongRecOn generalizing a with
  | _ n ih =>
    subst hn
    match hcalls : a.calls with
    | [] => exact ⟨a, .refl, hcalls, rfl⟩
    | c :: calls =>
      have hhead : a.calls = [] ++ c :: calls := hcalls
      obtain ⟨y, more, hy, hycalls, hnone, hweight, heffects⟩ := finish sets? hhead
      have hyp : ∀ d ∈ y.calls, d.pending? = none := by
        intro d hd
        rw [hycalls, List.nil_append, List.mem_append] at hd
        exact hd.elim (fun hd => hp d (by simp [hcalls, hd])) (hnone d)
      have hlt : weight y.calls < weight a.calls := by
        rw [hycalls, hcalls, List.nil_append, weight_append, weight_cons]
        omega
      obtain ⟨z, hz, hzcalls, hzeffects⟩ := ih _ hlt hyp rfl
      refine ⟨z, hy.trans hz, hzcalls, ?_⟩
      rw [hzeffects, heffects, hp c (by simp [hcalls]), Option.toList_none, List.append_nil]

/-- Every mutation that is still to take effect may be the last to do so. -/
theorem exists_last {c : Call} (hc : c ∈ a.calls) {m : Tab.Mutation} (hp : c.pending? = some m) :
    ∃ z effects, ReflTransGen (Next sets?) a z ∧ z.calls = [] ∧ z.effects = effects ++ [m] := by
  -- All other calls are complete, then this one takes effect, and what is left is loads.
  obtain ⟨before, after, hsplit⟩ := List.append_of_mem hc
  obtain ⟨x, hx, hxcalls⟩ := isolate sets? hsplit
  have hhead : x.calls = [] ++ c :: [] := hxcalls
  obtain ⟨y, more, hy, hycalls, hnone, -, heffects⟩ := finish sets? hhead
  have hynone : ∀ d ∈ y.calls, d.pending? = none := by
    rw [hycalls]
    exact hnone
  obtain ⟨z, hz, hzcalls, hzeffects⟩ := drain sets? hynone
  refine ⟨z, x.effects, (hx.trans hy).trans hz, hzcalls, ?_⟩
  rw [hzeffects, heffects, hp, Option.toList_some]

variable {sets?}

/-- The last command has the last word exactly if no other mutation that is still to take effect
    sets something else. -/
theorem last_wins_iff {c : Command} {i : Nat} {m : Tab.Mutation}
    (hwork : (a.panel.dispatch c).work = [.change i m]) (hm : sets? m = some v) :
    (∀ z, ReflTransGen (Next sets?) (a.after now (.own (.receive c))) z → z.calls = [] →
      lastSet? sets? z.effects = some v) ↔
    ∀ d ∈ a.calls, ∀ m' u, d.pending? = some m' → sets? m' = some u → u = v := by
  have hcalls : (a.after now (.own (.receive c))).calls = a.calls ++ [.start (.change i m)] := by
    show a.calls ++ (a.panel.dispatch c).work.map Call.start = _
    rw [hwork, List.map_singleton]
  constructor
  · intro h d hd m' u hp hu
    -- Let the older mutation be the last to take effect.
    have hd' : d ∈ (a.after now (.own (.receive c))).calls := by
      rw [hcalls]
      exact List.mem_append_left _ hd
    obtain ⟨z, effects, hz, hzcalls, hzeffects⟩ := exists_last sets? hd' hp
    have hlast := h z hz hzcalls
    rw [hzeffects, lastSet?_snoc, hu, Option.some_or] at hlast
    exact Option.some.inj hlast
  · intro h z hz hzcalls
    have hb : Holds sets? v (a.after now (.own (.receive c))) := by
      refine ⟨fun d hd m' u hp hu => ?_, .inl ⟨.start (.change i m), ?_, m, rfl, hm⟩⟩
      · rw [hcalls, List.mem_append, List.mem_singleton] at hd
        rcases hd with hd | rfl
        · exact h d hd m' u hp hu
        · obtain rfl := Option.some.inj hp
          rw [hm] at hu
          exact (Option.some.inj hu).symm
      · rw [hcalls]
        exact List.mem_append_right _ (List.mem_singleton.mpr rfl)
    have hdue := (hb.of_reaches hz).due
    simpa [hzcalls] using hdue

end Watched

end Site

/-! ### Jobs -/

theorem Cron.switch?_switchJob (job : String) (on : Bool) :
    (Cron.switchJob job on).switch? job = some on := by
  simp [Cron.switchJob, Tab.Mutation.switch?]

/-- The command that switches a job asks for just that. -/
theorem Panel.dispatch_toggle {p : Panel} {i : Nat} {s : Cron.State}
    (hi : p.index? Cron.identity.id = some i) (ht : p.tabs[i]? = some (.cron s)) {job : String}
    (hjob : job ≠ "") (on : Bool) :
    (p.dispatch (Cron.toggle job on)).work = [.change i (Cron.switchJob job on)] := by
  have hword : (Cron.toggle job on).word? "name" = some job := by
    have htext : (Cron.toggle job on).payload.textOf? ["name"] = some job := rfl
    rw [Command.word?, Json.wordOf?, htext, Option.filter_some]
    simp [hjob]
  have htruth : (Cron.toggle job on).truth? "enabled" = some on := rfl
  have hverb : Cron.Verb.ofWord? (Cron.toggle job on).name = some .toggleJob := rfl
  have hreact : s.react (Cron.toggle job on) = (s, .change (Cron.switchJob job on)) := by
    simp [Cron.State.react, hverb, Cron.State.toggleJob, hword, htruth, Tab.targetState?,
      Cron.switchJob]
  have haddress : p.dispatch (Cron.toggle job on) = p.address i (Cron.toggle job on) := by
    simp [dispatch, Cron.toggle, hi, selectWord, refreshWord, Cron.Verb.word]
  rw [haddress]
  simp [address, ht, Tab.react, hreact, route]

/-- A job is switched at once, whatever is in flight. It ends in the state that was asked for last,
    however the work in flight goes on, exactly if no older mutation that is still to take effect
    switches it to the other state. -/
theorem last_switch_wins_iff {a : Site} {c : Command} {i : Nat} {job : String} {on : Bool}
    (hwork : (a.panel.dispatch c).work = [.change i (Cron.switchJob job on)])
    (now : Time.Instant) :
    let switch? : Tab.Mutation → Option Bool := (·.switch? job)
    let b := a.after now (.own (.receive c))
    b.calls = a.calls ++ [.start (.change i (Cron.switchJob job on))] ∧
    ((∀ z, ReflTransGen (Site.Next switch?) b z → z.calls = [] →
        lastSet? switch? z.effects = some on) ↔
      ∀ d ∈ a.calls, ∀ m u, d.pending? = some m → switch? m = some u → u = on) := by
  intro switch? b
  refine ⟨?_, Site.last_wins_iff hwork (Cron.switch?_switchJob job on)⟩
  show a.calls ++ (a.panel.dispatch c).work.map Site.Call.start = _
  rw [hwork, List.map_singleton]

/-- The older mutation has taken effect when the second command comes, although it is not yet
    complete. -/
theorem last_switch_wins_iff_effective :
    let switch? : Tab.Mutation → Option Bool := (·.switch? "backup")
    let a := (Site.first (.ofTabs [.new .cron 3 20]) ⟨0, 0⟩).follow ⟨0, 0⟩
      [.own (.receive (Cron.toggle "backup" false)), .effect 1]
    let b := a.after ⟨0, 0⟩ (.own (.receive (Cron.toggle "backup" true)))
    b.calls.length = 3 ∧
      ∀ z, ReflTransGen (Site.Next switch?) b z → z.calls = [] →
        lastSet? switch? z.effects = some true := by
  intro switch? a b
  have hi : a.panel.index? Cron.identity.id = some 0 := by decide +kernel
  obtain ⟨s, hs⟩ : ∃ s, a.panel.tabs[0]? = some (.cron s) := ⟨_, rfl⟩
  have hpending : a.calls.all (·.pending?.isNone) = true := by decide +kernel
  have hjob : "backup" ≠ "" := by decide
  obtain ⟨hcalls, hiff⟩ := last_switch_wins_iff (dispatch_toggle hi hs hjob true) ⟨0, 0⟩
  refine ⟨by rw [hcalls]; decide +kernel, hiff.mpr fun d hd m u hp => ?_⟩
  have hnone := List.all_eq_true.mp hpending d hd
  rw [hp] at hnone
  cases hnone

/-- A job is switched off and then on, both mutations are in flight at once, and the first one takes
    effect after the second one. In the end the job is off. -/
theorem ordered_switches_cross :
    let switch? : Tab.Mutation → Option Bool := (·.switch? "backup")
    let report : Tab.Report := ⟨[⟨"getJobs", .done⟩, ⟨"getHistory", .done⟩]⟩
    let start := Site.first (.ofTabs [.new .cron 3 20]) ⟨0, 0⟩
    let commands : List Site.Move :=
      [.own (.receive (Cron.toggle "backup" false)), .own (.receive (Cron.toggle "backup" true))]
    let rest : List Site.Move :=
      [ .effect 2, .own (.settle 2 (.changed 0 .done))
      , .effect 1, .own (.settle 1 (.changed 0 .done)), .own .close
      , .own (.settle 0 (.loaded 0 1 report)), .own (.settle 0 (.loaded 0 2 report))
      , .own (.settle 0 (.loaded 0 3 report)) ]
    let a := start.follow ⟨0, 0⟩ commands
    let z := a.follow ⟨0, 0⟩ rest
    start.Admits ⟨0, 0⟩ commands ∧ a.Admits ⟨0, 0⟩ rest ∧
      a.calls.filterMap (·.pending?.bind switch?) = [false, true] ∧
      z.calls.length = 0 ∧ lastSet? switch? z.effects = some false := by
  intro switch? report start commands rest a z
  exact ⟨by decide +kernel, by decide +kernel, by decide +kernel, by decide +kernel,
    by decide +kernel⟩

end Dashboard
