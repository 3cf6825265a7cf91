import Dashboard.Tab.Drive
import Dashboard.World.Script
/-!
# Scripts that agree on one daemon

What a script answers to the calls of one daemon depends on nothing that it says of the others.

* `Script.AgreeOn` — two scripts answer for a daemon alike and were asked the same of it.
* `Script.AgreeOn.answer`, `Script.agreeOn_answer_other` — calls of that daemon, and of others.
* `Rehearsal.Couples` — two computations that come to related results wherever the scripts agree,
  and leave them agreeing; `couples_fetch`, `couples_perform` — asking the daemon is one with
  itself.
* `Rehearsal.Spares` — a computation that leaves what concerns the daemon as it is; `spares_fetch`,
  `spares_perform` — asking other daemons is one.
-/

namespace Dashboard

namespace Script

/-- The replies that wait for a method, in order. -/
def repliesFor (s : Script) (k : Key) : List Reply := (s.waiting.filter (·.1 == k)).map (·.2)

/-- The calls made to a daemon, in order. -/
def callsTo (s : Script) (d : Daemon) : List Call := s.calls.filter (·.daemon == d)

/-- Two scripts answer alike for a daemon and were asked the same of it. -/
structure AgreeOn (d : Daemon) (s s' : Script) : Prop where
  waiting : ∀ method, s.repliesFor ⟨d, method⟩ = s'.repliesFor ⟨d, method⟩
  standing : ∀ method params, s.standing ⟨d, method⟩ params = s'.standing ⟨d, method⟩ params
  calls : s.callsTo d = s'.callsTo d

variable {d d' : Daemon} {s s' s'' : Script} {k k' : Key} {method : String} {params : Option Json}

namespace AgreeOn

theorem refl (d : Daemon) (s : Script) : s.AgreeOn d s := ⟨fun _ => rfl, fun _ _ => rfl, rfl⟩

/-- Agreement goes both ways. -/
theorem symm (h : s.AgreeOn d s') : s'.AgreeOn d s :=
  ⟨fun method => (h.waiting method).symm, fun method params => (h.standing method params).symm,
    h.calls.symm⟩

/-- Agreement passes from script to script. -/
theorem trans (h : s.AgreeOn d s') (h' : s'.AgreeOn d s'') : s.AgreeOn d s'' :=
  ⟨fun method => (h.waiting method).trans (h'.waiting method),
    fun method params => (h.standing method params).trans (h'.standing method params),
    h.calls.trans h'.calls⟩

end AgreeOn

/-- One more reply that is given once, by another daemon. -/
theorem agreeOn_enqueue_other (hd : k.daemon ≠ d) (s : Script) (r : Reply) :
    (s.enqueue k r).AgreeOn d s where
  waiting method := by
    have hk : k ≠ ⟨d, method⟩ := fun h => hd (h ▸ rfl)
    simp [repliesFor, enqueue, hk]
  standing _ _ := rfl
  calls := rfl

/-- A reply of another daemon that holds from now on. -/
theorem agreeOn_respond_other (hd : k.daemon ≠ d) (s : Script) (r : Reply) :
    (s.respond k r).AgreeOn d s where
  waiting _ := rfl
  standing method params := by
    have hk : k ≠ ⟨d, method⟩ := fun h => hd (h ▸ rfl)
    simp [standing, respond, hk]
  calls := rfl

/-! ### One call -/

theorem head?_repliesFor (s : Script) (k : Key) :
    (s.repliesFor k).head? = (s.waiting.find? (·.1 == k)).map (·.2) := by
  rw [repliesFor, List.head?_map, List.head?_filter]

/-- The reply to a call. -/
theorem answer_fst (s : Script) (d : Daemon) (method : String) (params : Option Json) :
    (s.answer d method params).1 =
      ((s.repliesFor ⟨d, method⟩).head?).getD (s.standing ⟨d, method⟩ params) := by
  rw [head?_repliesFor]
  simp only [answer]
  split
  case h_1 hf => simp [hf]
  case h_2 hf => simp [hf, standing]

/-- A reply that is given is gone. -/
theorem filter_eraseP (waiting : List (Key × Reply)) (k k' : Key) :
    (waiting.eraseP (·.1 == k)).filter (·.1 == k') =
      if k' = k then (waiting.filter (·.1 == k')).tail else waiting.filter (·.1 == k') := by
  induction waiting with
  | nil => simp
  | cons x waiting ih =>
    by_cases hx : x.1 = k
    · -- This reply is the one that goes.
      by_cases hk : k' = k
      · simp [hx, hk]
      · simp [hx, hk, Ne.symm hk]
    · rw [List.eraseP_cons_of_neg (by simpa using hx)]
      by_cases hk : k' = k
      · subst hk
        simpa [hx] using ih
      · simp only [if_neg hk] at ih ⊢
        simp [List.filter_cons, ih]

/-- A call takes the first of the replies that wait for its own method, if one waits. -/
theorem repliesFor_answer :
    (s.answer d method params).2.repliesFor k =
      if k = ⟨d, method⟩ then (s.repliesFor k).tail else s.repliesFor k := by
  simp only [answer]
  split
  case h_1 hf =>
    simp only [repliesFor, filter_eraseP]
    split <;> simp
  case h_2 hf =>
    split
    case isTrue hk =>
      -- No reply waits, so there is none to take away.
      have hnone : s.repliesFor k = [] := by
        have hhead := s.head?_repliesFor k
        rw [hk, hf] at hhead
        rw [hk]
        exact List.head?_eq_none_iff.mp hhead
      rw [hnone]
      exact hnone
    case isFalse => rfl

/-- The replies that stand are not used up. -/
theorem standing_answer {asked : Option Json} :
    (s.answer d method params).2.standing k asked = s.standing k asked := by
  simp only [answer]
  split <;> rfl

/-- A call is recorded. -/
theorem calls_answer :
    (s.answer d method params).2.calls = s.calls ++ [⟨d, method, params⟩] := by
  simp only [answer]
  split <;> rfl

/-- A call is recorded under the daemon that was called. -/
theorem callsTo_answer :
    (s.answer d method params).2.callsTo d' =
      s.callsTo d' ++ if d = d' then [⟨d, method, params⟩] else [] := by
  rw [callsTo, calls_answer, List.filter_append]
  by_cases hd : d = d' <;> simp [callsTo, hd]

/-- A call of the daemon. -/
theorem AgreeOn.answer (h : s.AgreeOn d s') (method : String) (params : Option Json) :
    (s.answer d method params).1 = (s'.answer d method params).1 ∧
      (s.answer d method params).2.AgreeOn d (s'.answer d method params).2 where
  left := by rw [answer_fst, answer_fst, h.waiting, h.standing]
  right :=
    { waiting := fun method => by rw [repliesFor_answer, repliesFor_answer, h.waiting]
      standing := fun method asked => by rw [standing_answer, standing_answer, h.standing]
      calls := by rw [callsTo_answer, callsTo_answer, h.calls] }

/-- A call of another daemon. -/
theorem agreeOn_answer_other (hd : d' ≠ d) (s : Script) (method : String)
    (params : Option Json) : (s.answer d' method params).2.AgreeOn d s where
  waiting method := by
    rw [repliesFor_answer, if_neg]
    exact fun h => hd (Key.mk.inj h).1.symm
  standing _ _ := standing_answer
  calls := by rw [callsTo_answer, if_neg hd, List.append_nil]

end Script

/-! ### Computations -/

namespace Rehearsal

/-- Two rehearsals are alike in what concerns a daemon. -/
structure AgreeOn (d : Daemon) (r r' : Rehearsal) : Prop where
  script : r.script.AgreeOn d r'.script
  clock : r.clock = r'.clock

variable {d d' : Daemon} {r r' r'' : Rehearsal}

namespace AgreeOn

theorem refl (d : Daemon) (r : Rehearsal) : r.AgreeOn d r := ⟨.refl d _, rfl⟩

theorem symm (h : r.AgreeOn d r') : r'.AgreeOn d r := ⟨h.script.symm, h.clock.symm⟩

theorem trans (h : r.AgreeOn d r') (h' : r'.AgreeOn d r'') : r.AgreeOn d r'' :=
  ⟨h.script.trans h'.script, h.clock.trans h'.clock⟩

end AgreeOn

/-- Two computations come to related results wherever rehearsals agree, and leave them agreeing. -/
def Couples (d : Daemon) {α β : Type} (R : α → β → Prop) (x : StateM Rehearsal α)
    (y : StateM Rehearsal β) : Prop :=
  ∀ r r', r.AgreeOn d r' → R (x.run r).1 (y.run r').1 ∧ (x.run r).2.AgreeOn d (y.run r').2

/-- A computation leaves what concerns a daemon as it is. -/
def Spares (d : Daemon) {α : Type} (x : StateM Rehearsal α) : Prop :=
  ∀ r, (x.run r).2.AgreeOn d r

variable {α β γ δ : Type} {R : α → β → Prop} {S : γ → δ → Prop} {x : StateM Rehearsal α}
  {y : StateM Rehearsal β}

namespace Couples

theorem pure {a : α} {b : β} (h : R a b) :
    Couples d R (Pure.pure a : StateM Rehearsal α) (Pure.pure b : StateM Rehearsal β) :=
  fun _ _ hr => ⟨h, hr⟩

/-- Coupled computations, followed by coupled ones. -/
theorem bind {f : α → StateM Rehearsal γ} {g : β → StateM Rehearsal δ} (h : Couples d R x y)
    (hf : ∀ a b, R a b → Couples d S (f a) (g b)) : Couples d S (x >>= f) (y >>= g) := by
  intro r r' hr
  obtain ⟨hab, hr'⟩ := h r r' hr
  exact hf _ _ hab _ _ hr'

/-- What is made of the results of coupled computations. -/
theorem map {f : α → γ} {g : β → δ} (h : Couples d R x y) (hf : ∀ a b, R a b → S (f a) (g b)) :
    Couples d S (f <$> x) (g <$> y) := by
  intro r r' hr
  obtain ⟨hab, hr'⟩ := h r r' hr
  exact ⟨hf _ _ hab, hr'⟩

/-- What comes after a computation that spares the daemon is coupled as if it came first. -/
theorem bind_left {f : α → StateM Rehearsal γ} {z : StateM Rehearsal δ} (h : Spares d x)
    (hf : ∀ a, Couples d S (f a) z) : Couples d S (x >>= f) z :=
  fun r r' hr => hf _ _ r' ((h r).trans hr)

/-- A computation for each item, if each is coupled with itself. -/
theorem mapM {f : α → StateM Rehearsal β} (hf : ∀ a, Couples d Eq (f a) (f a)) (as : List α) :
    Couples d Eq (as.mapM f) (as.mapM f) := by
  induction as with
  | nil => exact .pure rfl
  | cons a as ih =>
    rw [List.mapM_cons]
    refine (hf a).bind fun b b' hb => ih.bind fun bs bs' hbs => ?_
    rw [hb, hbs]
    exact .pure rfl

/-- Computations are coupled if both are coupled with a third. -/
theorem meet {z : StateM Rehearsal γ} {R' : δ → γ → Prop} {Q : α → δ → Prop}
    {w : StateM Rehearsal δ} {R : α → γ → Prop} (h : Couples d R x z) (h' : Couples d R' w z)
    (hQ : ∀ a b c, R a c → R' b c → Q a b) : Couples d Q x w := by
  intro r r' hr
  obtain ⟨hac, hrun⟩ := h r r' hr
  -- The third starts from the second rehearsal both times.
  obtain ⟨hbc, hrun'⟩ := h' r' r' (.refl d r')
  exact ⟨hQ _ _ _ hac hbc, hrun.trans hrun'.symm⟩

end Couples

namespace Spares

theorem pure (a : α) : Spares d (Pure.pure a : StateM Rehearsal α) := fun r => .refl d r

theorem bind {f : α → StateM Rehearsal γ} (h : Spares d x) (hf : ∀ a, Spares d (f a)) :
    Spares d (x >>= f) :=
  fun r => (hf _ _).trans (h r)

/-- A computation for each item, if each spares the daemon. -/
theorem mapM {f : α → StateM Rehearsal β} (hf : ∀ a, Spares d (f a)) (as : List α) :
    Spares d (as.mapM f) := by
  induction as with
  | nil => exact .pure _
  | cons a as ih =>
    rw [List.mapM_cons]
    exact (hf a).bind fun b => ih.bind fun bs => .pure _

end Spares

/-! ### Calls and notices -/

/-- Notices are put after those already there, in their order. -/
theorem run_noteAll (notices : List Notice) (r : Rehearsal) :
    (World.noteAll notices : StateM Rehearsal Unit).run r =
      ((), { r with notices := r.notices ++ notices }) := by
  induction notices generalizing r with
  | nil =>
    rw [List.append_nil]
    rfl
  | cons n notices ih =>
    have hrest := ih { r with notices := r.notices ++ [n] }
    rw [List.append_assoc, List.singleton_append] at hrest
    exact hrest

/-- Notices concern no daemon. -/
theorem spares_noteAll (d : Daemon) (notices : List Notice) :
    Spares d (World.noteAll notices : StateM Rehearsal Unit) := by
  intro r
  rw [run_noteAll]
  exact ⟨.refl d _, rfl⟩

/-- Notices are coupled with any others: what concerns a daemon does not depend on them. -/
theorem couples_noteAll (d : Daemon) (notices notices' : List Notice) :
    Couples d Eq (World.noteAll notices : StateM Rehearsal Unit) (World.noteAll notices') := by
  intro r r' hr
  refine ⟨rfl, ?_⟩
  exact (spares_noteAll d notices r).trans (hr.trans (spares_noteAll d notices' r').symm)

/-- A call of the daemon has one reply wherever rehearsals agree. -/
theorem couples_call (d : Daemon) (method : String) (params : Option Json) :
    Couples d Eq (World.call d method params : StateM Rehearsal Reply)
      (World.call d method params) := by
  intro r r' hr
  obtain ⟨hreply, hscript⟩ := hr.script.answer method params
  exact ⟨hreply, hscript, hr.clock⟩

/-- A call of another daemon spares this one. -/
theorem spares_call (hd : d' ≠ d) (method : String) (params : Option Json) :
    Spares d (World.call d' method params : StateM Rehearsal Reply) :=
  fun r => ⟨Script.agreeOn_answer_other hd r.script method params, rfl⟩

/-- The queries of a load come to one report wherever rehearsals agree. -/
theorem couples_fetch (d : Daemon) (queries : List Tab.Query) :
    Couples d Eq (Tab.fetch d queries : StateM Rehearsal Tab.Report) (Tab.fetch d queries) := by
  refine (Couples.mapM (fun q => ?_) queries).map fun _ _ h => congrArg _ h
  exact (couples_call d q.method q.params).map fun _ _ h => congrArg _ h

/-- A load of another daemon spares this one. -/
theorem spares_fetch (hd : d' ≠ d) (queries : List Tab.Query) :
    Spares d (Tab.fetch d' queries : StateM Rehearsal Tab.Report) := by
  refine (Spares.mapM (fun q => ?_) queries).bind fun outcomes => .pure _
  exact (spares_call hd q.method q.params).bind fun reply => .pure _

/-- A mutation of the daemon has one reply wherever rehearsals agree. -/
theorem couples_perform (change : Tab.Mutation) :
    Couples change.daemon Eq (change.perform : StateM Rehearsal Reply) change.perform := by
  unfold Tab.Mutation.perform
  refine (couples_call _ _ _).bind fun reply reply' h => ?_
  subst h
  exact (couples_noteAll _ _ _).bind fun _ _ _ => .pure rfl

/-- A mutation of another daemon spares this one. -/
theorem spares_perform {change : Tab.Mutation} (hd : change.daemon ≠ d) :
    Spares d (change.perform : StateM Rehearsal Reply) := by
  refine (spares_call hd change.method change.params).bind fun reply => ?_
  exact (spares_noteAll d _).bind fun _ => .pure _

end Rehearsal

end Dashboard
