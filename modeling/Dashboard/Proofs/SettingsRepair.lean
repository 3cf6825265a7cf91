import Dashboard.Settings.Standing
import Mathlib.Data.List.Basic
/-!
# What a repair of settings does

Each field is repaired by itself, so each has two lemmas: what stands is kept without a problem, and
of what does not stand something is made that does, with a problem.

* `Endpoint.stands_defaultFor` — daemons can be called where they are expected.
* `Settings.isFirsts_eraseDups` — an order without repetitions.
* `Settings.stands_repair`, `Settings.mends_repair`, `Settings.repair_of_stands` — what a repair
  makes of settings, and that it leaves those that stand alone.
* `Settings.repair_projects` — a repair is a projection onto the settings that stand.
* `Settings.repair_tells`, `Settings.problems_tell_changes` — problems are told exactly of
  what is replaced; that an order loses repetitions is not told.
-/

namespace Dashboard

/-! ### Addresses -/

/-- A daemon can be called at the address at which it is expected. -/
theorem Endpoint.stands_defaultFor (d : Daemon) : Endpoint.Stands (Endpoints.defaultFor d) := by
  have hsome : (Endpoint.validate (Endpoints.defaultFor d)).toOption.isSome = true := by
    cases d <;> decide +kernel
  right
  cases h : Endpoint.validate (Endpoints.defaultFor d) with
  | ok url => exact ⟨url, rfl⟩
  | error reason =>
    rw [h] at hsome
    cases hsome

namespace Settings

variable {address : String} {d : Daemon}

/-- An address that stands is kept, and nothing is told. -/
theorem repairEndpoint_of_stands (h : Endpoint.Stands address) :
    repairEndpoint d address = (address, []) := by
  unfold repairEndpoint
  rcases h with hblank | ⟨url, hurl⟩
  · rw [if_pos hblank]
  · rw [hurl]
    exact ite_self _

/-- An address that does not stand is replaced by the default, with the reason. -/
theorem repairEndpoint_of_not_stands (h : ¬ Endpoint.Stands address) :
    ∃ reason, repairEndpoint d address = (Endpoints.defaultFor d, [.endpoint d reason]) := by
  obtain ⟨hblank, hurl⟩ := not_or.mp h
  unfold repairEndpoint
  rw [if_neg hblank]
  cases hv : Endpoint.validate address with
  | ok url => exact absurd ⟨url, hv⟩ hurl
  | error reason => exact ⟨reason, rfl⟩

/-! ### Numbers -/

theorem repairZero_of_pos {default n : Nat} {problem : Problem} (h : 0 < n) :
    repairZero default problem n = (n, []) :=
  if_neg (Nat.ne_of_gt h)

/-- A limit of the history in its range is kept. -/
theorem repairHistoryLimit_of_stands {n : Nat} (h : 1 ≤ n ∧ n ≤ Cron.maxHistoryLimit) :
    repairHistoryLimit n = (n, []) := by
  rw [repairHistoryLimit, if_neg (Nat.ne_of_gt h.1), if_neg (Nat.not_lt.mpr h.2)]

/-- A limit of the history above its range becomes the largest there is. -/
theorem repairHistoryLimit_of_large {n : Nat} (h : Cron.maxHistoryLimit < n) :
    repairHistoryLimit n = (Cron.maxHistoryLimit, [.tooMuchHistory n]) := by
  rw [repairHistoryLimit, if_neg (Nat.ne_of_gt (Nat.zero_lt_of_lt h)), if_pos h]

/-! ### Orders -/

/-- An order loses its repetitions, and nothing is told of that. -/
theorem repairOrder_of_ne_nil {order : List Daemon} (h : order ≠ []) :
    repairOrder order = (order.eraseDups, []) := by
  rw [repairOrder, if_neg (by simpa using h)]

/-- Behind an element, two others come in the order in which they come first there. -/
theorem idxOf_cons_lt {order : List Daemon} {a d e : Daemon} (had : a ≠ d) (hae : a ≠ e) :
    (a :: order).idxOf d < (a :: order).idxOf e ↔ order.idxOf d < order.idxOf e := by
  rw [List.idxOf_cons_ne _ had, List.idxOf_cons_ne _ hae, Nat.succ_lt_succ_iff]

/-- The head of a list comes before anything else. -/
theorem idxOf_head_lt {order : List Daemon} {a e : Daemon} (hae : a ≠ e) :
    (a :: order).idxOf a < (a :: order).idxOf e := by
  rw [List.idxOf_cons_self, List.idxOf_cons_ne _ hae]
  exact Nat.succ_pos _

/-- Elements that a list keeps stay in the order in which they come first. -/
theorem idxOf_lt_of_filter {keep : Daemon → Bool} {order : List Daemon} {d e : Daemon}
    (hd : keep d = true) (he : keep e = true)
    (h : (order.filter keep).idxOf d < (order.filter keep).idxOf e) :
    order.idxOf d < order.idxOf e := by
  induction order with
  | nil => exact h
  | cons a order ih =>
    by_cases hk : keep a = true
    · -- What is kept stays the head, so it is not behind another.
      rw [List.filter_cons_of_pos hk] at h
      have hae : a ≠ e := by
        rintro rfl
        rw [List.idxOf_cons_self] at h
        exact Nat.not_lt_zero _ h
      by_cases had : a = d
      · exact had ▸ idxOf_head_lt hae
      · exact (idxOf_cons_lt had hae).mpr (ih ((idxOf_cons_lt had hae).mp h))
    · -- An element that is not kept is neither of the two.
      have had : a ≠ d := fun heq => hk (heq ▸ hd)
      have hae : a ≠ e := fun heq => hk (heq ▸ he)
      rw [List.filter_cons_of_neg hk] at h
      exact (idxOf_cons_lt had hae).mpr (ih h)

/-- Without its repetitions an order has its elements where they come first. -/
theorem isFirsts_eraseDups (order : List Daemon) : IsFirsts order.eraseDups order := by
  refine ⟨fun d => List.mem_eraseDups, ?_⟩
  -- The induction is on the length: what is left behind the first element has it nowhere.
  induction hn : order.length using Nat.strongRecOn generalizing order with
  | _ n ih =>
    subst hn
    cases order with
    | nil => exact List.Pairwise.nil
    | cons a order =>
      rw [List.eraseDups_cons, List.pairwise_cons]
      have hkeep {d : Daemon} (hd : d ∈ (order.filter fun b => !b == a).eraseDups) :
          (!d == a) = true := (List.mem_filter.mp (List.mem_eraseDups.mp hd)).2
      have hne {d : Daemon} (hd : d ∈ (order.filter fun b => !b == a).eraseDups) : a ≠ d := by
        rintro rfl
        simpa using hkeep hd
      have hlt : (order.filter fun b => !b == a).length < (a :: order).length :=
        Nat.lt_succ_of_le (List.length_filter_le _ _)
      refine ⟨fun d hd => idxOf_head_lt (hne hd), ?_⟩
      refine (ih _ hlt _ rfl).imp_of_mem fun {d e} hd he hbefore => ?_
      exact (idxOf_cons_lt (hne hd) (hne he)).mpr (idxOf_lt_of_filter (hkeep hd) (hkeep he) hbefore)

/-- What comes first of each has no repetitions. -/
theorem IsFirsts.nodup {firsts order : List Daemon} (h : IsFirsts firsts order) : firsts.Nodup :=
  h.2.imp fun {_ _} hlt heq => Nat.ne_of_lt hlt (congrArg order.idxOf heq)

/-- An order without repetitions stays as it is. -/
theorem eraseDups_of_nodup {order : List Daemon} (h : order.Nodup) : order.eraseDups = order := by
  induction order with
  | nil => rfl
  | cons a order ih =>
    obtain ⟨ha, horder⟩ := List.nodup_cons.mp h
    have hkeep : order.filter (fun b => !b == a) = order := by
      refine List.filter_eq_self.mpr fun b hb => ?_
      have hne : b ≠ a := fun heq => ha (heq ▸ hb)
      simpa using hne
    rw [List.eraseDups_cons, hkeep, ih horder]

/-! ### All fields -/

theorem ofFunction_get (e : Endpoints) : Endpoints.ofFunction e.get = e := rfl

/-- What stands is left alone. -/
theorem repair_of_stands {s : Settings} (h : s.Stands) : s.repair = (s, []) := by
  have hendpoint (d : Daemon) : repairEndpoint d (s.endpoints.get d) = (s.endpoints.get d, []) :=
    repairEndpoint_of_stands (h.endpoints d)
  have horder : repairOrder s.order = (s.order, []) := by
    rw [repairOrder_of_ne_nil h.order.1, eraseDups_of_nodup h.order.2]
  simp only [repair, hendpoint, repairZero_of_pos h.callTimeout, repairZero_of_pos h.maxRetries,
    repairHistoryLimit_of_stands h.historyLimit, horder, ofFunction_get]
  rfl

theorem endpoint_repair (s : Settings) (d : Daemon) :
    s.repair.1.endpoints.get d = (repairEndpoint d (s.endpoints.get d)).1 :=
  Endpoints.get_ofFunction _ d

theorem endpoint_default (d : Daemon) : default.endpoints.get d = Endpoints.defaultFor d :=
  Endpoints.get_ofFunction _ d

/-- What becomes of each field. -/
theorem mends_repair (s : Settings) : Mends s s.repair.1 where
  endpoint_kept d h := by rw [endpoint_repair, repairEndpoint_of_stands h]
  endpoint_replaced d h := by
    obtain ⟨reason, hrepair⟩ := repairEndpoint_of_not_stands (d := d) h
    rw [endpoint_repair, endpoint_default, hrepair]
  callTimeout_kept h := congrArg Prod.fst (repairZero_of_pos h)
  callTimeout_replaced h := congrArg Prod.fst (if_pos h)
  maxRetries_kept h := congrArg Prod.fst (repairZero_of_pos h)
  maxRetries_replaced h := congrArg Prod.fst (if_pos h)
  historyLimit_kept hlow hhigh := congrArg Prod.fst (repairHistoryLimit_of_stands ⟨hlow, hhigh⟩)
  historyLimit_cut h := congrArg Prod.fst (repairHistoryLimit_of_large h)
  historyLimit_replaced h := congrArg Prod.fst (if_pos h)
  order_kept hne h := by
    show (repairOrder s.order).1 = _
    rw [repairOrder_of_ne_nil hne, eraseDups_of_nodup h]
  order_firsts hne := by
    show IsFirsts (repairOrder s.order).1 _
    rw [repairOrder_of_ne_nil hne]
    exact isFirsts_eraseDups s.order
  order_replaced h := congrArg Prod.fst (if_pos (List.isEmpty_iff.mpr h))

/-- Whatever the settings are, what becomes of them stands. -/
theorem Mends.stands {s t : Settings} (h : Mends s t) : t.Stands where
  endpoints d := by
    by_cases hd : Endpoint.Stands (s.endpoints.get d)
    · rw [h.endpoint_kept d hd]
      exact hd
    · rw [h.endpoint_replaced d hd, endpoint_default]
      exact Endpoint.stands_defaultFor d
  callTimeout := by
    rcases Nat.eq_zero_or_pos s.callTimeout with hzero | hpos
    · rw [h.callTimeout_replaced hzero]
      decide
    · rwa [h.callTimeout_kept hpos]
  maxRetries := by
    rcases Nat.eq_zero_or_pos s.maxRetries with hzero | hpos
    · rw [h.maxRetries_replaced hzero]
      decide
    · rwa [h.maxRetries_kept hpos]
  historyLimit := by
    rcases Nat.eq_zero_or_pos s.historyLimit with hzero | hpos
    · rw [h.historyLimit_replaced hzero]
      decide
    · by_cases hlarge : Cron.maxHistoryLimit < s.historyLimit
      · rw [h.historyLimit_cut hlarge]
        decide
      · rw [h.historyLimit_kept hpos (Nat.not_lt.mp hlarge)]
        exact ⟨hpos, Nat.not_lt.mp hlarge⟩
  order := by
    by_cases hnil : s.order = []
    · rw [h.order_replaced hnil]
      decide
    · have hfirsts := h.order_firsts hnil
      obtain ⟨d, hd⟩ := List.exists_mem_of_ne_nil _ hnil
      exact ⟨List.ne_nil_of_mem ((hfirsts.1 d).mpr hd), hfirsts.nodup⟩

/-- After the repair the settings stand. -/
theorem stands_repair (s : Settings) : s.repair.1.Stands := (mends_repair s).stands

/-- Whatever the settings are, a repair makes of them settings that stand, keeps every field that
    stands already, and mends all others as their kind asks. A second repair finds no problem and
    changes nothing. -/
theorem repair_projects (s : Settings) :
    s.repair.1.Stands ∧ Mends s s.repair.1 ∧ s.repair.1.repair = (s.repair.1, []) :=
  ⟨stands_repair s, mends_repair s, repair_of_stands (stands_repair s)⟩

/-! ### Problems -/

/-- An address is told of exactly if it is replaced: what it is replaced by stands. -/
theorem repairEndpoint_tells (d : Daemon) (address : String) :
    (repairEndpoint d address).2 = [] ↔ (repairEndpoint d address).1 = address := by
  by_cases h : Endpoint.Stands address
  · simp [repairEndpoint_of_stands h]
  · obtain ⟨reason, hrepair⟩ := repairEndpoint_of_not_stands (d := d) h
    have hne : Endpoints.defaultFor d ≠ address := fun heq => h (heq ▸ Endpoint.stands_defaultFor d)
    simp [hrepair, hne]

/-- A number is told of exactly if it was replaced. -/
theorem repairZero_tells {default : Nat} (hd : default ≠ 0) (problem : Problem) (n : Nat) :
    (repairZero default problem n).2 = [] ↔ (repairZero default problem n).1 = n := by
  unfold repairZero
  split
  · rename_i h
    simpa [h] using hd
  · simp

/-- A limit of the history is told of exactly if it was replaced. -/
theorem repairHistoryLimit_tells (n : Nat) :
    (repairHistoryLimit n).2 = [] ↔ (repairHistoryLimit n).1 = n := by
  unfold repairHistoryLimit
  split
  · rename_i h
    simp [h, defaultHistoryLimit]
  · split
    · rename_i h
      simpa using Nat.ne_of_lt h
    · simp

/-- Of an order it is told exactly if more happens to it than that it loses repetitions. -/
theorem repairOrder_tells (order : List Daemon) :
    (repairOrder order).2 = [] ↔ (repairOrder order).1 = order.eraseDups := by
  by_cases h : order = []
  · subst h
    simp [repairOrder, Daemon.all]
  · simp [repairOrder_of_ne_nil h]

/-- Addresses are equal if they are for each daemon. -/
theorem ofFunction_eq_iff {f : Daemon → String} {e : Endpoints} :
    Endpoints.ofFunction f = e ↔ ∀ d, f d = e.get d := by
  constructor
  · rintro rfl d
    rw [Endpoints.get_ofFunction]
  · intro h
    rw [funext h, ofFunction_get]

/-- There are no problems exactly if nothing happens to settings but that their order loses its
    repetitions. -/
theorem repair_tells (s : Settings) :
    s.repair.2 = [] ↔ s.repair.1 = { s with order := s.order.eraseDups } := by
  obtain ⟨endpoints, callTimeout, maxRetries, order, historyLimit⟩ := s
  simp only [repair, List.append_eq_nil_iff, List.flatMap_eq_nil_iff, Daemon.mem_all, true_implies,
    mk.injEq, ofFunction_eq_iff, repairEndpoint_tells, repairHistoryLimit_tells, repairOrder_tells,
    repairZero_tells (show defaultCallTimeout ≠ 0 by decide),
    repairZero_tells (show defaultMaxRetries ≠ 0 by decide)]
  tauto

/-- Problems are told exactly if something is replaced. Only that an order loses its repetitions is
    not told: that there are no problems means that nothing changes, and the other way round, for
    just those settings that list no daemon twice or that have a problem of another kind. -/
theorem problems_tell_changes (s : Settings) :
    (s.repair.2 = [] ↔ s.repair.1 = { s with order := s.order.eraseDups }) ∧
      ((s.repair.2 = [] ↔ s.repair.1 = s) ↔ s.order.Nodup ∨ s.repair.2 ≠ []) := by
  have hkept (h : s.repair.1 = s) : s.repair.2 = [] ∧ s.order.Nodup := by
    have hstands : s.Stands := h ▸ stands_repair s
    rw [repair_of_stands hstands]
    exact ⟨rfl, hstands.order.2⟩
  refine ⟨repair_tells s, fun h => ?_, ?_⟩
  · by_cases hnone : s.repair.2 = []
    · exact .inl (hkept (h.mp hnone)).2
    · exact .inr hnone
  · rintro (hnodup | hsome)
    · have htells := repair_tells s
      rwa [eraseDups_of_nodup hnodup] at htells
    · exact ⟨fun hnone => absurd hnone hsome, fun h => (hkept h).1⟩

/-- A daemon that is listed twice is listed once afterwards, and nothing is told of it. -/
theorem repetition_untold :
    let s := { default with order := [.cron, .cron] }
    s.repair.2 = [] ∧ s.repair.1 = { default with order := [.cron] } ∧ s.repair.1 ≠ s := by
  decide +kernel

end Settings

end Dashboard
