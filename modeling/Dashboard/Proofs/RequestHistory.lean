import Dashboard.Proofs.NumberText
import Dashboard.Rpc.History
/-!
# What the history of requests tells

Whatever is done to the requests of any number of connections, in whatever order, an answer reaches
the caller of the request it answers and nobody else.

* `next_replay`, `nodup_handedOut`, `Registered.not_next` — no id is handed out twice.
* `awaitsSince_cons`, `endedBy_cons` — how one deed adds to what a history tells.
* `mem_waiting_replay` — the requests that wait are those whose wait nothing has ended.
* `EndedBy.not_awaits`, `EndedBy.unique` — a wait ends once.
* `Tells` — what a mailbox holds and what was taken from it, as the history tells it; one lemma for
  each deed, `replay_tells` for every history.
* `answers_reach_their_callers` — all of it together.
-/

namespace Dashboard.Rpc

variable {h : List Deed} {i : Nat} {id : String} {since : Nat} {d : Deed} {r : Response}

/-! ### Ids -/

@[simp] theorem Exchange.register_fst (e : Exchange) (i now : Nat) :
    (e.register i now).1 = toString e.next := rfl

theorem registered_le_cons (d : Deed) (h : List Deed) : registered h ≤ registered (d :: h) := by
  cases d <;> simp [registered]

/-- Ids are counted from one. -/
theorem next_replay (h : List Deed) : (replay h).next = UInt64.ofNat (registered h + 1) := by
  induction h with
  | nil => rfl
  | cons d earlier ih =>
    cases d with
    | register i now =>
      simp only [replay, Exchange.after, Exchange.register, registered, ih]
      exact (UInt64.ofNat_add _ _).symm
    | _ => exact ih

/-- The next id as a number; the counter has 64 bits and wraps. -/
theorem toNat_next_replay (h : List Deed) :
    (replay h).next.toNat = (registered h + 1) % UInt64.size := by
  rw [next_replay, UInt64.toNat_ofNat']

/-- An id that was handed out is the number of one of the requests, counted from one. -/
theorem mem_handedOut (hw : registered h < UInt64.size) (hm : id ∈ handedOut h) :
    ∃ n, 0 < n ∧ n ≤ registered h ∧ id = toString n := by
  induction h with
  | nil => simp [handedOut] at hm
  | cons d earlier ih =>
    have hle := registered_le_cons d earlier
    cases d with
    | register i now =>
      simp only [handedOut, Exchange.register_fst, List.mem_cons] at hm
      rcases hm with rfl | hm
      · -- The counter has not wrapped, so the new id is one more than the requests before it.
        refine ⟨registered earlier + 1, by omega, Nat.le_refl _, ?_⟩
        rw [toString_uint64, toNat_next_replay]
        exact congrArg toString (Nat.mod_eq_of_lt hw)
      · obtain ⟨n, hpos, hn, rfl⟩ := ih (by omega) hm
        exact ⟨n, hpos, by omega, rfl⟩
    | _ => exact ih hw hm

/-- The next id is new, also when the counter has just wrapped: ids are counted from one. -/
theorem next_not_mem_handedOut (hw : registered h < UInt64.size) :
    toString (replay h).next ∉ handedOut h := by
  intro hm
  obtain ⟨n, hpos, hn, heq⟩ := mem_handedOut hw hm
  rw [toString_uint64, toNat_next_replay] at heq
  have hnext := toString_nat_injective heq
  rcases Nat.lt_or_ge (registered h + 1) UInt64.size with hlt | hge
  · rw [Nat.mod_eq_of_lt hlt] at hnext
    omega
  · rw [show registered h + 1 = UInt64.size by omega, Nat.mod_self] at hnext
    omega

/-- No two requests have one id. -/
theorem nodup_handedOut (hw : registered h < UInt64.size) : (handedOut h).Nodup := by
  induction h with
  | nil => exact List.nodup_nil
  | cons d earlier ih =>
    have hle := registered_le_cons d earlier
    cases d with
    | register i now =>
      exact List.nodup_cons.mpr ⟨next_not_mem_handedOut (by omega), ih (by omega)⟩
    | _ => exact ih hw

/-! ### How one deed adds to what a history tells -/

/-- A registration is the latest deed, or it came before it. -/
theorem registered_cons {later : List Deed} :
    Registered (d :: h) i id since later ↔
      (later = [] ∧ d = .register i since ∧ toString (replay h).next = id) ∨
      ∃ later', later = d :: later' ∧ Registered h i id since later' := by
  constructor
  · rintro ⟨earlier, heq, hid⟩
    cases later with
    | nil =>
      obtain ⟨rfl, rfl⟩ := List.cons.inj heq
      exact .inl ⟨rfl, rfl, hid⟩
    | cons d' later' =>
      obtain ⟨rfl, rfl⟩ := List.cons.inj heq
      exact .inr ⟨later', rfl, earlier, rfl, hid⟩
  · rintro (⟨rfl, rfl, hid⟩ | ⟨later', rfl, earlier, rfl, hid⟩)
    · exact ⟨h, rfl, hid⟩
    · exact ⟨earlier, rfl, hid⟩

/-- Without a deed no request was registered. -/
theorem not_registered_nil {later : List Deed} : ¬ Registered [] i id since later := by
  rintro ⟨earlier, heq, -⟩
  simp at heq

/-- The id of a registered request was handed out. -/
theorem Registered.mem_handedOut {later : List Deed} (hr : Registered h i id since later) :
    id ∈ handedOut h := by
  induction h generalizing later with
  | nil => exact absurd hr not_registered_nil
  | cons d earlier ih =>
    rcases registered_cons.mp hr with ⟨-, rfl, rfl⟩ | ⟨later', -, hr'⟩
    · exact List.mem_cons_self
    · cases d with
      | register => exact List.mem_cons_of_mem _ (ih hr')
      | _ => exact ih hr'

/-- The next request gets an id that no request has. -/
theorem Registered.not_next (hw : registered h < UInt64.size) {later : List Deed}
    (hr : Registered h i id since later) : toString (replay h).next ≠ id :=
  fun heq => next_not_mem_handedOut hw (heq ▸ hr.mem_handedOut)

/-- A request is registered once. -/
theorem Registered.unique (hw : registered h < UInt64.size) {since' : Nat}
    {later later' : List Deed} (hr : Registered h i id since later) (hr' : Registered h i id since' later') :
    since = since' ∧ later = later' := by
  induction h generalizing later later' with
  | nil => exact absurd hr not_registered_nil
  | cons d earlier ih =>
    have hle := registered_le_cons d earlier
    have hw' : registered earlier < UInt64.size := by omega
    rcases registered_cons.mp hr with ⟨rfl, hd, hid⟩ | ⟨l, rfl, hl⟩ <;>
      rcases registered_cons.mp hr' with ⟨rfl, hd', hid'⟩ | ⟨l', rfl, hl'⟩
    · cases hd.symm.trans hd'
      exact ⟨rfl, rfl⟩
    · exact absurd hid (hl'.not_next hw')
    · exact absurd hid' (hl.not_next hw')
    · obtain ⟨rfl, rfl⟩ := ih hw' hl hl'
      exact ⟨rfl, rfl⟩

/-- A request waits if it was just registered, or if it waited and the latest deed does not end its
    wait. -/
theorem awaitsSince_cons :
    AwaitsSince (d :: h) i id since ↔
      (d = .register i since ∧ toString (replay h).next = id) ∨
      (AwaitsSince h i id since ∧ ¬ d.Ends i id since) := by
  constructor
  · rintro ⟨later, hr, hn⟩
    rcases registered_cons.mp hr with ⟨-, hd, hid⟩ | ⟨later', rfl, hl⟩
    · exact .inl ⟨hd, hid⟩
    · obtain ⟨hd, hn⟩ := List.forall_mem_cons.mp hn
      exact .inr ⟨⟨later', hl, hn⟩, hd⟩
  · rintro (⟨hd, hid⟩ | ⟨⟨later, hr, hn⟩, hd⟩)
    · exact ⟨[], registered_cons.mpr (.inl ⟨rfl, hd, hid⟩), by simp⟩
    · exact ⟨d :: later, registered_cons.mpr (.inr ⟨later, rfl, hr⟩),
        List.forall_mem_cons.mpr ⟨hd, hn⟩⟩

/-- Without a deed no request waits. -/
theorem not_awaitsSince_nil : ¬ AwaitsSince [] i id since :=
  fun ⟨_, hr, _⟩ => not_registered_nil hr

/-- The latest deed ends a wait that lasted until then; a wait that has ended stays ended. -/
theorem endedBy_cons {d' : Deed} :
    EndedBy (d' :: h) i id d ↔
      EndedBy h i id d ∨ (d' = d ∧ ∃ since, AwaitsSince h i id since ∧ d.Ends i id since) := by
  constructor
  · rintro ⟨later, earlier, since, heq, ha, he⟩
    cases later with
    | nil =>
      obtain ⟨rfl, rfl⟩ := List.cons.inj heq
      exact .inr ⟨rfl, since, ha, he⟩
    | cons _ later =>
      obtain ⟨rfl, rfl⟩ := List.cons.inj heq
      exact .inl ⟨later, earlier, since, rfl, ha, he⟩
  · rintro (⟨later, earlier, since, rfl, ha, he⟩ | ⟨rfl, since, ha, he⟩)
    · exact ⟨d' :: later, earlier, since, rfl, ha, he⟩
    · exact ⟨[], h, since, rfl, ha, he⟩

/-- A caller attends to its request from the registration on, until it leaves. -/
theorem attended_cons :
    Attended (d :: h) i id ↔
      (∃ since, d = .register i since ∧ toString (replay h).next = id) ∨
      (Attended h i id ∧ d ≠ .leave i id) := by
  constructor
  · rintro ⟨since, later, hr, hl⟩
    rcases registered_cons.mp hr with ⟨-, hd, hid⟩ | ⟨later', rfl, hr'⟩
    · exact .inl ⟨since, hd, hid⟩
    · rw [List.mem_cons, not_or] at hl
      exact .inr ⟨⟨since, later', hr', hl.2⟩, Ne.symm hl.1⟩
  · rintro (⟨since, hd, hid⟩ | ⟨⟨since, later, hr, hl⟩, hd⟩)
    · exact ⟨since, [], registered_cons.mpr (.inl ⟨rfl, hd, hid⟩), List.not_mem_nil⟩
    · refine ⟨since, d :: later, registered_cons.mpr (.inr ⟨later, rfl, hr⟩), ?_⟩
      rw [List.mem_cons, not_or]
      exact ⟨Ne.symm hd, hl⟩

/-- Without a deed no wait has ended. -/
theorem not_endedBy_nil : ¬ EndedBy [] i id d := by
  rintro ⟨later, earlier, since, heq, -⟩
  simp at heq

/-! ### One connection -/

/-- The connection that a deed is about. -/
def Deed.connection : Deed → Nat
  | register i _ | complete i _ _ | cleanup i _ _ | clear i | leave i _ | look i _ => i

/-- What a deed does to its connection; `next` is the id for a new request. -/
def Connection.after (c : Connection) (next : String) : Deed → Connection
  | .register _ now => c.register next now
  | .complete _ id r => (c.complete id r).2
  | .cleanup _ now timeout => (c.cleanup now timeout).2
  | .clear _ => c.clear.2
  | .leave _ id => c.leave id
  | .look _ id => (c.look id).2

/-- A deed changes no connection but its own. -/
theorem Exchange.connections_after (e : Exchange) (d : Deed) (j : Nat) :
    (e.after d).connections j =
      if j = d.connection then (e.connections j).after (toString e.next) d
      else e.connections j := by
  split
  case isTrue hj => subst hj; cases d <;> simp [after, register, complete, cleanup, clear, leave,
    look, setConnection, Deed.connection, Connection.after]
  case isFalse hj => cases d <;> simp_all [after, register, complete, cleanup, clear, leave,
    look, setConnection, Deed.connection]

/-- A deed acts on its own connection, whatever was done to the others. -/
theorem replay_own (hd : d.connection = i) :
    (replay (d :: h)).connections i =
      ((replay h).connections i).after (toString (replay h).next) d := by
  rw [replay, Exchange.connections_after, if_pos hd.symm]

/-- A deed leaves every other connection as it is. -/
theorem replay_other (hd : d.connection ≠ i) :
    (replay (d :: h)).connections i = (replay h).connections i := by
  rw [replay, Exchange.connections_after, if_neg (Ne.symm hd)]

/-- The wait of a request is ended on the connection of the request. -/
theorem Deed.Ends.connection_eq (he : d.Ends i id since) : d.connection = i := by
  cases d with
  | complete | cleanup => exact he.1
  | clear => exact he
  | register | leave | look => exact he.elim

/-! ### The requests that wait -/

/-- After a registration the id waits from now on, and every other request waits as before. -/
theorem Ledger.mem_register {l : Ledger} {now : Nat} {w : Waiting} :
    w ∈ (l.register id now).waiting ↔ (w ∈ l.waiting ∧ w.id ≠ id) ∨ w = ⟨id, now⟩ := by
  simp [Ledger.register, Ledger.mem_erase]

/-- The requests that are kept are those that have waited for less than the limit. -/
theorem Ledger.mem_fresh {l : Ledger} {now timeout : Nat} {w : Waiting} :
    w ∈ (l.fresh now timeout).waiting ↔ w ∈ l.waiting ∧ ¬ timeout ≤ now - w.since := by
  simp [Ledger.fresh]

/-- The requests that are given up are those that have waited for as long as the limit. -/
theorem Ledger.mem_stale {l : Ledger} {now timeout : Nat} :
    id ∈ l.stale now timeout ↔ ∃ since, ⟨id, since⟩ ∈ l.waiting ∧ timeout ≤ now - since := by
  simp only [Ledger.stale, List.mem_map, List.mem_filter, decide_eq_true_eq]
  constructor
  · rintro ⟨w, hw, rfl⟩
    exact ⟨w.since, hw⟩
  · rintro ⟨since, hw⟩
    exact ⟨_, hw, rfl⟩

/-- Whether or not it finds a request, an answer leaves the others waiting. -/
theorem Connection.mem_complete {c : Connection} {w : Waiting} :
    w ∈ (c.complete id r).2.ledger.waiting ↔ w ∈ c.ledger.waiting ∧ w.id ≠ id := by
  by_cases hc : c.ledger.contains id = true
  · simp [complete, hc, Ledger.mem_erase]
  · simp only [complete, hc, Bool.false_eq_true, if_false, ne_eq, iff_self_and]
    rintro hw rfl
    exact hc (Ledger.contains_iff.mpr ⟨w.since, hw⟩)

/-- What waits on a connection after a deed. -/
theorem Connection.mem_after (c : Connection) (next : String)
    (hn : ∀ since, ⟨next, since⟩ ∉ c.ledger.waiting) (hd : d.connection = i) :
    ⟨id, since⟩ ∈ (c.after next d).ledger.waiting ↔
      (d = .register i since ∧ next = id) ∨
      (⟨id, since⟩ ∈ c.ledger.waiting ∧ ¬ d.Ends i id since) := by
  subst hd
  cases d with
  | register i now =>
    -- The next id is new, so no other request loses its place.
    have hne : ⟨id, since⟩ ∈ c.ledger.waiting → id ≠ next := fun hw heq => hn since (heq ▸ hw)
    simp only [after, register, Ledger.mem_register, Deed.connection, Deed.Ends, Waiting.mk.injEq,
      Deed.register.injEq, true_and, not_false_eq_true, and_true]
    constructor
    · rintro (⟨hw, -⟩ | ⟨rfl, rfl⟩)
      · exact .inr hw
      · exact .inl ⟨rfl, rfl⟩
    · rintro (⟨rfl, rfl⟩ | hw)
      · exact .inr ⟨rfl, rfl⟩
      · exact .inl ⟨hw, hne hw⟩
  | complete i id' r =>
    simp [after, mem_complete, Deed.connection, Deed.Ends, eq_comm]
  | cleanup i now timeout =>
    simp [after, cleanup, Ledger.mem_fresh, Deed.connection, Deed.Ends]
  | clear i => simp [after, clear, Deed.connection, Deed.Ends]
  | leave i id' => simp [after, leave, mapMailboxes, Deed.Ends]
  | look i id' => simp [after, look, mapMailboxes, Deed.Ends]

/-- The requests that wait are those that were registered and whose wait nothing has ended. -/
theorem mem_waiting_replay (hw : registered h < UInt64.size) :
    ⟨id, since⟩ ∈ ((replay h).connections i).ledger.waiting ↔ AwaitsSince h i id since := by
  induction h generalizing id since with
  | nil => simp [replay, not_awaitsSince_nil]
  | cons d earlier ih =>
    have hle := registered_le_cons d earlier
    replace ih {id : String} {since : Nat} := @ih id since (by omega)
    rw [awaitsSince_cons]
    -- A deed on another connection ends no wait on this one.
    by_cases hd : d.connection = i
    · rw [replay_own hd, Connection.mem_after _ _ _ hd, ih]
      intro since hm
      obtain ⟨later, hr, -⟩ := ih.mp hm
      exact hr.not_next (by omega) rfl
    · rw [replay_other hd, ih]
      have hne : ¬ d.Ends i id since := fun he => hd he.connection_eq
      have hnr : d ≠ .register i since := by rintro rfl; exact hd rfl
      simp [hne, hnr]

/-! ### A wait ends once -/

/-- A request waits from one moment on. -/
theorem AwaitsSince.unique (hw : registered h < UInt64.size) {since' : Nat}
    (ha : AwaitsSince h i id since) (ha' : AwaitsSince h i id since') : since = since' :=
  (ha.choose_spec.1.unique hw ha'.choose_spec.1).1

/-- A request whose wait has ended was registered. -/
theorem EndedBy.known (he : EndedBy h i id d) : ∃ since later, Registered h i id since later := by
  obtain ⟨later, earlier, since, rfl, ⟨later', ⟨earliest, rfl, hid⟩, -⟩, -⟩ := he
  exact ⟨since, later ++ d :: later', earliest, by simp, hid⟩

/-- A request whose wait was ended never waits again. -/
theorem EndedBy.not_awaits (hw : registered h < UInt64.size) (he : EndedBy h i id d) :
    ¬ Awaits h i id := by
  rintro ⟨since', ha⟩
  induction h with
  | nil => exact not_endedBy_nil he
  | cons d' earlier ih =>
    have hle := registered_le_cons d' earlier
    have hw' : registered earlier < UInt64.size := by omega
    -- The wait ended before or ends now, and the request was registered just now or waits on.
    rcases endedBy_cons.mp he with he' | ⟨rfl, since, hs, hd⟩ <;>
      rcases awaitsSince_cons.mp ha with ⟨rfl, hid⟩ | ⟨ha', hn⟩
    · obtain ⟨since, later, hr⟩ := he'.known
      exact hr.not_next hw' hid
    · exact ih hw' he' ha'
    · exact hd
    · exact hn (hs.unique hw' ha' ▸ hd)

/-- One deed ends the wait of a request. -/
theorem EndedBy.unique (hw : registered h < UInt64.size) {d' : Deed} (he : EndedBy h i id d)
    (he' : EndedBy h i id d') : d = d' := by
  induction h with
  | nil => exact absurd he not_endedBy_nil
  | cons d₀ earlier ih =>
    have hle := registered_le_cons d₀ earlier
    have hw' : registered earlier < UInt64.size := by omega
    rcases endedBy_cons.mp he with he | ⟨rfl, since, hs, -⟩ <;>
      rcases endedBy_cons.mp he' with he' | ⟨rfl, since', hs', -⟩
    · exact ih hw' he he'
    · exact absurd ⟨since', hs'⟩ (he.not_awaits hw')
    · exact absurd ⟨since, hs⟩ (he'.not_awaits hw')
    · rfl

/-- A request has one answer. -/
theorem Answered.unique (hw : registered h < UInt64.size) {r' : Response}
    (ha : Answered h i id r) (ha' : Answered h i id r') : r = r' := by
  cases EndedBy.unique hw ha ha'
  rfl

/-- A request that was answered is not given up. -/
theorem Answered.not_givenUp (hw : registered h < UInt64.size) (ha : Answered h i id r) :
    ¬ GivenUp h i id := by
  rintro (⟨now, timeout, hg⟩ | hg) <;> cases EndedBy.unique hw ha hg

/-- A request that was given up no longer waits. -/
theorem GivenUp.not_awaits (hw : registered h < UInt64.size) (hg : GivenUp h i id) :
    ¬ Awaits h i id := by
  rcases hg with ⟨now, timeout, hg⟩ | hg <;> exact hg.not_awaits hw

/-- What ended a wait is not undone by later deeds. -/
theorem EndedBy.cons (he : EndedBy h i id d) (d' : Deed) : EndedBy (d' :: h) i id d :=
  endedBy_cons.mpr (.inl he)

/-- A request that was given up stays given up. -/
theorem GivenUp.cons (hg : GivenUp h i id) (d : Deed) : GivenUp (d :: h) i id :=
  hg.imp (fun ⟨now, timeout, he⟩ => ⟨now, timeout, he.cons d⟩) (·.cons d)

/-! ### What a deed does to a mailbox -/

/-- What the end of a wait does to the mailbox. -/
def Deed.close : Deed → Mailbox → Mailbox
  | complete _ _ r, m => m.deliver r
  | _, m => m.abandon

/-- What a deed that ends no wait does to the mailbox of a request. -/
def Deed.attend (id : String) : Deed → Mailbox → Mailbox
  | leave _ id', m => if id' = id then m.leave else m
  | look _ id', m => if id' = id then m.look.2 else m
  | _, m => m

/-- Leaving leaves the mailbox of the request itself. -/
@[simp] theorem Deed.attend_leave (i : Nat) (id : String) :
    Deed.attend id (.leave i id) = Mailbox.leave := by
  funext m
  simp [attend]

/-- Looking takes from the mailbox of the request itself. -/
@[simp] theorem Deed.attend_look (i : Nat) (id : String) :
    Deed.attend id (.look i id) = fun m => m.look.2 := by
  funext m
  simp [attend]

/-- Only the caller of a request that leaves or looks changes its mailbox while nothing ends its
    wait. -/
theorem Deed.attend_eq_self (hl : d ≠ .leave i id) (hk : d ≠ .look i id) (hd : d.connection = i) :
    d.attend id = fun m => m := by
  subst hd
  cases d with
  | leave j id' =>
    have hne : id' ≠ id := by rintro rfl; exact hl rfl
    funext m
    simp [attend, hne]
  | look j id' =>
    have hne : id' ≠ id := by rintro rfl; exact hk rfl
    funext m
    simp [attend, hne]
  | _ => rfl

namespace Connection

variable (c : Connection)

/-- A new request begins with an empty mailbox, and its caller looks for an answer. -/
theorem mailbox?_register_self {now : Nat} (hn : c.mailbox? id = none) :
    (c.register id now).mailbox? id = some (.empty true) := by
  have hm : (c.mapMailboxes (· == id) Mailbox.abandon).mailbox? id = none :=
    (c.mailbox?_mapMailboxes fun _ => rfl).trans (by rw [hn]; rfl)
  rw [mailbox?, Option.map_eq_none_iff] at hm
  simp [register, mailbox?, List.find?_append, hm]

/-- A registration leaves the mailboxes of the other requests as they are. -/
theorem mailbox?_register_ne {next : String} {now : Nat} (hne : next ≠ id) :
    (c.register next now).mailbox? id = c.mailbox? id := by
  have hm : (c.mapMailboxes (· == next) Mailbox.abandon).mailbox? id = c.mailbox? id :=
    (c.mailbox?_mapMailboxes (g := fun m => m) fun m => by simp [hne.symm]).trans Option.map_id'
  rw [← hm]
  simp [register, mailbox?, List.find?_append, hne]

/-- The end of its wait closes or fills the mailbox of a request. -/
theorem mailbox?_ended {next : String} (hwait : ⟨id, since⟩ ∈ c.ledger.waiting)
    (he : d.Ends i id since) : (c.after next d).mailbox? id = (c.mailbox? id).map d.close := by
  have hc : c.ledger.contains id = true := Ledger.contains_iff.mpr ⟨since, hwait⟩
  cases d with
  | complete j id' r =>
    obtain ⟨-, rfl⟩ := he
    simp only [after, complete, hc, if_true]
    exact c.mailbox?_mapMailboxes (p := (· == id')) (f := (·.deliver r)) fun m => by
      simp [Deed.close]
  | cleanup j now timeout =>
    have hs := Ledger.mem_stale.mpr ⟨since, hwait, he.2⟩
    exact c.mailbox?_mapMailboxes fun m => by simp [Deed.close, hs]
  | clear j => exact c.mailbox?_mapMailboxes fun m => by simp [Deed.close, hc]
  | register | leave | look => exact he.elim

/-- Any other deed leaves it to the caller. -/
theorem mailbox?_spared {next : String} (hd : d.connection = i)
    (hne : ∀ now, d = .register i now → next ≠ id)
    (hs : ∀ since, ⟨id, since⟩ ∈ c.ledger.waiting → ¬ d.Ends i id since) :
    (c.after next d).mailbox? id = (c.mailbox? id).map (d.attend id) := by
  subst hd
  cases d with
  | register i now =>
    rw [show Deed.attend id (.register i now) = fun m => m from rfl, Option.map_id']
    exact c.mailbox?_register_ne (hne now rfl)
  | complete i id' r =>
    -- What is answered waits, so it is another request than this one.
    by_cases hc : c.ledger.contains id' = true
    · have hne' : id ≠ id' := by
        rintro rfl
        obtain ⟨since, hwait⟩ := Ledger.contains_iff.mp hc
        exact hs since hwait ⟨rfl, rfl⟩
      simp only [after, complete, hc, if_true]
      exact c.mailbox?_mapMailboxes (p := (· == id')) (f := (·.deliver r)) fun m => by
        simp [Deed.attend, hne']
    · rw [show Deed.attend id (.complete i id' r) = fun m => m from rfl, Option.map_id']
      simp [after, complete, hc]
  | cleanup i now timeout =>
    -- What is given up has waited too long, and this request has not.
    have hn : id ∉ c.ledger.stale now timeout := by
      rw [Ledger.mem_stale]
      rintro ⟨since, hwait, hle⟩
      exact hs since hwait ⟨rfl, hle⟩
    exact c.mailbox?_mapMailboxes fun m => by simp [Deed.attend, hn]
  | clear i =>
    have hn : ¬ c.ledger.contains id = true := by
      rw [Ledger.contains_iff]
      rintro ⟨since, hwait⟩
      exact hs since hwait rfl
    exact c.mailbox?_mapMailboxes fun m => by simp [Deed.attend, hn]
  | leave i id' =>
    exact c.mailbox?_mapMailboxes fun m => by simp [Deed.attend, eq_comm (a := id)]
  | look i id' =>
    exact c.mailbox?_mapMailboxes fun m => by simp [Deed.attend, eq_comm (a := id)]

end Connection

/-! ### What a mailbox tells -/

/-- What the mailbox of a request holds and what its caller has taken from it, as the history tells
    it. -/
inductive Tells (h : List Deed) (i : Nat) (id : String) : Option Mailbox → List Response → Prop
  | unknown (hn : ∀ since later, ¬ Registered h i id since later) : Tells h i id none []
  | waiting (ha : Awaits h i id) (attended : Bool) (hb : attended = true ↔ Attended h i id) :
    Tells h i id (some (.empty attended)) []
  | answered (r : Response) (hr : Answered h i id r) : Tells h i id (some (.holding r)) []
  | read (r : Response) (hr : Answered h i id r) : Tells h i id (some .closed) [r]
  | unseen (r : Response) (hr : Answered h i id r) (hl : ¬ Attended h i id) :
    Tells h i id (some .closed) []
  | givenUp (hg : GivenUp h i id) : Tells h i id (some .closed) []

/-- Only a look at the request shows its caller an answer. -/
theorem taken_cons (hd : d ≠ .look i id) : taken i id (d :: h) = taken i id h := by
  cases d with
  | look j id' =>
    have hne : ¬ (j = i ∧ id' = id) := by
      rintro ⟨rfl, rfl⟩
      exact hd rfl
    simp [taken, hne]
  | _ => rfl

/-- A look shows an answer that the mailbox holds, and nothing else. -/
theorem taken_look (h : List Deed) (i : Nat) (id : String) :
    taken i id (.look i id :: h) =
      match ((replay h).connections i).mailbox? id with
      | some (.holding r) => r :: taken i id h
      | _ => taken i id h := by
  simp only [taken, and_self, if_true, Exchange.look, Connection.look]
  cases ((replay h).connections i).mailbox? id with
  | none => rfl
  | some m =>
    cases m with
    | empty attended => cases attended <;> rfl
    | _ => rfl

/-- Without a deed there is no mailbox and no answer was taken. -/
theorem tells_nil : Tells [] i id none [] := .unknown fun _ _ => not_registered_nil

/-- A new request waits. -/
theorem Tells.register (i now : Nat) (h : List Deed) :
    Tells (.register i now :: h) i (toString (replay h).next) (some (.empty true)) [] :=
  .waiting ⟨now, awaitsSince_cons.mpr (.inl ⟨rfl, rfl⟩)⟩ true
    (iff_of_true rfl (attended_cons.mpr (.inl ⟨now, rfl, rfl⟩)))

variable {m : Option Mailbox} {seen : List Response}

/-- A deed that neither registers a request nor ends its wait, and is not done by its caller,
    changes nothing about it. -/
theorem Tells.spared (ht : Tells h i id m seen)
    (hr : ∀ since, d = .register i since → toString (replay h).next ≠ id)
    (hs : ∀ since, AwaitsSince h i id since → ¬ d.Ends i id since) (hl : d ≠ .leave i id) :
    Tells (d :: h) i id m seen := by
  -- The caller is there as before, for it has not left.
  have hat : Attended (d :: h) i id ↔ Attended h i id := by
    rw [attended_cons]
    constructor
    · rintro (⟨since, hd, hid⟩ | ⟨ha, -⟩)
      · exact absurd hid (hr since hd)
      · exact ha
    · exact fun ha => .inr ⟨ha, hl⟩
  cases ht with
  | unknown hn =>
    refine .unknown fun since later hreg => ?_
    rcases registered_cons.mp hreg with ⟨-, hd, hid⟩ | ⟨later', -, hreg⟩
    · exact hr since hd hid
    · exact hn since later' hreg
  | waiting ha attended hb =>
    obtain ⟨since, ha⟩ := ha
    have hawaits : Awaits (d :: h) i id := ⟨since, awaitsSince_cons.mpr (.inr ⟨ha, hs since ha⟩)⟩
    exact .waiting hawaits attended (hb.trans hat.symm)
  | answered r ha => exact .answered r (ha.cons d)
  | read r ha => exact .read r (ha.cons d)
  | unseen r ha hl => exact .unseen r (ha.cons d) (mt hat.mp hl)
  | givenUp hg => exact .givenUp (hg.cons d)

/-- The end of its wait answers a request or gives it up. -/
theorem Tells.ended (hw : registered h < UInt64.size) (ht : Tells h i id m seen)
    (ha : AwaitsSince h i id since) (he : d.Ends i id since) :
    Tells (d :: h) i id (m.map d.close) seen := by
  have hended : EndedBy (d :: h) i id d := endedBy_cons.mpr (.inr ⟨rfl, since, ha, he⟩)
  have hwait : Awaits h i id := ⟨since, ha⟩
  -- Only of a request that waits can a wait end.
  cases ht with
  | unknown hn =>
    obtain ⟨later, hr, -⟩ := ha
    exact absurd hr (hn since later)
  | answered r hr => exact absurd hwait (hr.not_awaits hw)
  | read r hr => exact absurd hwait (hr.not_awaits hw)
  | unseen r hr => exact absurd hwait (hr.not_awaits hw)
  | givenUp hg => exact absurd hwait (hg.not_awaits hw)
  | waiting _ attended hb =>
    cases d with
    | complete j id' r =>
      obtain ⟨rfl, rfl⟩ := he
      cases attended with
      | true => exact .answered r hended
      | false =>
        refine .unseen r hended fun hat => ?_
        rcases attended_cons.mp hat with ⟨since, hd, -⟩ | ⟨hat, -⟩
        · cases hd
        · simpa using hb.mpr hat
    | cleanup j now timeout =>
      obtain ⟨rfl, -⟩ := he
      exact .givenUp (.inl ⟨now, timeout, hended⟩)
    | clear j =>
      obtain rfl := he
      exact .givenUp (.inr hended)
    | register | leave | look => exact he.elim

/-- When its caller leaves, a request waits on, but nobody sees the answer. -/
theorem Tells.leave (ht : Tells h i id m seen) :
    Tells (.leave i id :: h) i id (m.map Mailbox.leave) seen := by
  -- Nobody looks for the answer any more.
  have hat : ¬ Attended (.leave i id :: h) i id := by
    rw [attended_cons]
    rintro (⟨since, hd, -⟩ | ⟨-, hne⟩)
    · cases hd
    · exact hne rfl
  cases ht with
  | unknown hn =>
    refine .unknown fun since later hreg => ?_
    rcases registered_cons.mp hreg with ⟨-, hd, -⟩ | ⟨later', -, hreg⟩
    · cases hd
    · exact hn since later' hreg
  | waiting ha attended hb =>
    obtain ⟨since, ha⟩ := ha
    have he : ¬ Deed.Ends i id since (.leave i id) := fun he => he
    exact .waiting ⟨since, awaitsSince_cons.mpr (.inr ⟨ha, he⟩)⟩ false (by simpa using hat)
  | answered r ha => exact .answered r (ha.cons _)
  | read r ha => exact .read r (ha.cons _)
  | unseen r ha _ => exact .unseen r (ha.cons _) hat
  | givenUp hg => exact .givenUp (hg.cons _)

/-- A caller who looks takes the answer. -/
theorem Tells.look
    (ht : Tells h i id (((replay h).connections i).mailbox? id) (taken i id h)) :
    Tells (.look i id :: h) i id ((((replay h).connections i).mailbox? id).map (·.look.2))
      (taken i id (.look i id :: h)) := by
  rw [taken_look]
  replace ht : Tells (.look i id :: h) i id _ _ :=
    ht.spared (fun _ hd => by cases hd) (fun _ _ => not_false) (fun hd => by cases hd)
  generalize ((replay h).connections i).mailbox? id = m at ht ⊢
  generalize taken i id h = seen at ht ⊢
  cases ht with
  | unknown hn => exact .unknown hn
  | waiting ha attended hb => cases attended <;> exact .waiting ha _ hb
  | answered r hr => exact .read r hr
  | read r hr => exact .read r hr
  | unseen r hr hl => exact .unseen r hr hl
  | givenUp hg => exact .givenUp hg

/-- A request that was not registered has no mailbox. -/
theorem Tells.eq_none (ht : Tells h i id m seen)
    (hn : ∀ since later, ¬ Registered h i id since later) : m = none ∧ seen = [] := by
  have hended {d : Deed} : ¬ EndedBy h i id d := fun he =>
    let ⟨since, later, hr⟩ := he.known
    hn since later hr
  cases ht with
  | unknown => exact ⟨rfl, rfl⟩
  | waiting ha =>
    obtain ⟨since, later, hr, -⟩ := ha
    exact absurd hr (hn since later)
  | answered r hr => exact absurd hr hended
  | read r hr => exact absurd hr hended
  | unseen r hr => exact absurd hr hended
  | givenUp hg =>
    rcases hg with ⟨now, timeout, he⟩ | he <;> exact absurd he hended

/-- What the mailboxes hold and what was taken from them after every history. -/
theorem replay_tells (hw : registered h < UInt64.size) (i : Nat) (id : String) :
    Tells h i id (((replay h).connections i).mailbox? id) (taken i id h) := by
  induction h with
  | nil => exact tells_nil
  | cons d earlier ih =>
    have hle := registered_le_cons d earlier
    have hw' : registered earlier < UInt64.size := by omega
    replace ih := ih hw'
    -- Another connection keeps its mailboxes.
    by_cases hd : d.connection = i
    case neg =>
      rw [replay_other hd, taken_cons (by rintro rfl; exact hd rfl)]
      exact ih.spared (fun _ heq => by subst heq; exact absurd rfl hd)
        (fun _ _ he => hd he.connection_eq) (by rintro rfl; exact hd rfl)
    rw [replay_own hd]
    by_cases hnew : ∃ now, d = .register i now ∧ toString (replay earlier).next = id
    · obtain ⟨now, rfl, rfl⟩ := hnew
      obtain ⟨hm, hs⟩ := ih.eq_none fun since later hr => hr.not_next hw' rfl
      rw [taken_cons (fun heq => by cases heq), hs]
      exact (Connection.mailbox?_register_self _ hm).symm ▸ .register i now earlier
    have hold : ∀ since, d = .register i since → toString (replay earlier).next ≠ id :=
      fun since heq hid => hnew ⟨since, heq, hid⟩
    by_cases hend : ∃ since, AwaitsSince earlier i id since ∧ d.Ends i id since
    · obtain ⟨since, ha, he⟩ := hend
      rw [Connection.mailbox?_ended _ ((mem_waiting_replay hw').mpr ha) he,
        taken_cons (by rintro rfl; exact he)]
      exact ih.ended hw' ha he
    have hspare : ∀ since, AwaitsSince earlier i id since → ¬ d.Ends i id since :=
      fun since ha he => hend ⟨since, ha, he⟩
    rw [Connection.mailbox?_spared _ hd hold fun since hwait =>
      hspare since ((mem_waiting_replay hw').mp hwait)]
    by_cases hk : d = .look i id
    · subst hk
      rw [Deed.attend_look]
      exact ih.look
    rw [taken_cons hk]
    by_cases hl : d = .leave i id
    · subst hl
      rw [Deed.attend_leave]
      exact ih.leave
    rw [Deed.attend_eq_self hl hk hd, Option.map_id']
    exact ih.spared hold hspare hl

/-! ### Every answer and its caller -/

/-- An answer finds its request exactly when the request waits. -/
theorem complete_fst_iff (hw : registered h < UInt64.size) (i : Nat) (id : String) (r : Response) :
    ((replay h).complete i id r).1 = true ↔ Awaits h i id := by
  have hf : ((replay h).complete i id r).1 = ((replay h).connections i).ledger.contains id := by
    simp only [Exchange.complete, Connection.complete]
    split <;> simp_all
  rw [hf, Ledger.contains_iff]
  exact exists_congr fun since => mem_waiting_replay hw

/-- A caller sees at most one answer, the one that ended the wait of its request. -/
theorem taken_eq (hw : registered h < UInt64.size) (i : Nat) (id : String) :
    taken i id h = [] ∨
      ∃ r, taken i id h = [r] ∧ ∀ r', Answered h i id r' ↔ r' = r := by
  have ht := replay_tells hw i id
  generalize ((replay h).connections i).mailbox? id = m at ht
  generalize taken i id h = seen at ht ⊢
  cases ht with
  | read r hr =>
    refine .inr ⟨r, rfl, fun r' => ⟨fun hr' => hr'.unique hw hr, ?_⟩⟩
    rintro rfl
    exact hr
  | _ => exact .inl rfl

/-- What a caller sees who has not left. -/
theorem look_eq (hw : registered h < UInt64.size) (hat : Attended h i id) :
    ∃ sight, ((replay h).look i id).1 = some sight ∧
      (sight = .nothing ↔ Awaits h i id) ∧
      (∀ r, sight = .answer r ↔ Answered h i id r ∧ taken i id h = []) ∧
      (sight = .closed ↔ GivenUp h i id ∨ ∃ r, taken i id h = [r]) := by
  have ht := replay_tells hw i id
  have hl : ((replay h).look i id).1 =
      (((replay h).connections i).mailbox? id).map (·.look.1) := rfl
  rw [hl]
  -- The mailbox and what was taken from it are told by the history, one case for each way in which
  -- they may stand.
  generalize ((replay h).connections i).mailbox? id = m at ht
  generalize taken i id h = seen at ht ⊢
  cases ht with
  | unknown hn =>
    obtain ⟨since, later, hr, -⟩ := hat
    exact absurd hr (hn since later)
  | waiting ha attended hb =>
    have hn : ∀ r, ¬ Answered h i id r := fun r hr => hr.not_awaits hw ha
    have hg : ¬ GivenUp h i id := fun hg => hg.not_awaits hw ha
    refine ⟨.nothing, ?_, ?_, ?_, ?_⟩
    · simp [hb.mpr hat, Mailbox.look]
    · simp [ha]
    · simp [hn]
    · simp [hg]
  | answered r hr =>
    have hn : ¬ Awaits h i id := hr.not_awaits hw
    refine ⟨.answer r, rfl, by simp [hn], fun r' => ?_, by simp [hr.not_givenUp hw]⟩
    simp only [Mailbox.Sight.answer.injEq, and_true]
    constructor
    · rintro rfl
      exact hr
    · exact fun hr' => hr.unique hw hr'
  | read r hr =>
    have hn : ¬ Awaits h i id := hr.not_awaits hw
    exact ⟨.closed, rfl, by simp [hn], by simp, by simp⟩
  | unseen r hr hl => exact absurd hat hl
  | givenUp hg =>
    have hn : ¬ Awaits h i id := hg.not_awaits hw
    have hna : ∀ r, ¬ Answered h i id r := fun r hr => hr.not_givenUp hw hg
    exact ⟨.closed, rfl, by simp [hn], by simp [hna], by simp [hg]⟩

/-- However requests are registered, answered, given up and abandoned on any number of connections,
    as long as the counter has not wrapped: ids are distinct, a connection waits for exactly the
    requests whose wait nothing has ended, an answer is matched exactly if its request waits, and a
    caller sees nothing but the one answer that ended the wait of its own request; its mailbox is
    closed otherwise exactly if the request was given up. -/
theorem answers_reach_their_callers (h : List Deed) (hw : registered h < UInt64.size) :
    (handedOut h).Nodup ∧
    (∀ i id since,
      ⟨id, since⟩ ∈ ((replay h).connections i).ledger.waiting ↔ AwaitsSince h i id since) ∧
    (∀ i id r, ((replay h).complete i id r).1 = true ↔ Awaits h i id) ∧
    (∀ i id, taken i id h = [] ∨
      ∃ r, taken i id h = [r] ∧ ∀ r', Answered h i id r' ↔ r' = r) ∧
    (∀ i id, Attended h i id → ∃ sight, ((replay h).look i id).1 = some sight ∧
      (sight = .nothing ↔ Awaits h i id) ∧
      (∀ r, sight = .answer r ↔ Answered h i id r ∧ taken i id h = []) ∧
      (sight = .closed ↔ GivenUp h i id ∨ ∃ r, taken i id h = [r])) :=
  ⟨nodup_handedOut hw, fun _ _ _ => mem_waiting_replay hw, complete_fst_iff hw, taken_eq hw,
    fun _ _ hat => look_eq hw hat⟩

/-- Two connections. The first gets an answer and then a late one, which is dropped, as is an answer
    to the second that has the id of a request of the first. The request of the second waits too
    long. -/
def crossed : List Deed :=
  [.look 0 "1", .complete 0 "1" { result := some .null }, .cleanup 1 100 50,
    .complete 1 "1" { result := some .null }, .complete 0 "1" {}, .register 1 10, .register 0 5]

/-- Of two crossed connections one request is answered and the other given up. -/
theorem answers_reach_their_callers_crossed :
    registered crossed < UInt64.size ∧
    (∀ r, Answered crossed 0 "1" r ↔ r = {}) ∧ GivenUp crossed 1 "2" := by
  have hw : registered crossed < UInt64.size := by decide
  obtain ⟨-, -, -, htaken, hlook⟩ := answers_reach_their_callers crossed hw
  refine ⟨hw, ?_, ?_⟩
  · rcases htaken 0 "1" with h | ⟨r, h, hr⟩
    · cases h
    · cases h
      exact hr
  · have hat : Attended crossed 1 "2" :=
      ⟨10, crossed.take 5, ⟨[.register 0 5], rfl, rfl⟩, by simp [crossed]⟩
    obtain ⟨sight, hs, -, -, hclosed⟩ := hlook 1 "2" hat
    cases hs
    rcases hclosed.mp rfl with hg | ⟨r, h⟩
    · exact hg
    · cases h

end Dashboard.Rpc
