import Dashboard.Proofs.StableSort
import Mathlib.Algebra.GroupWithZero.Nat
/-!
# What is shown of lists, and in which order

* `Slop.severityRank_eq` — how severe a word is.
* `Stats.Store.isLE_order` and its likes — the comparison of two elements is that of their places.
* `Count.sum_eq` — the sum of counts, cut at the largest.
* `Stats.Snapshot.modules_eq_some_iff`, `Slop.Snapshot.findings_eq_some_iff`,
  `Context.Snapshot.items_eq_iff` — the lists that are shown are the ones that were sent, sorted.
* `Stats.Snapshot.totalBytes_eq`, `Context.Snapshot.used_eq` — the sums that are shown with them.
* `lists_are_sorted_by_place` — all of this.
-/

namespace Dashboard

/-! ### Comparisons -/

section Comparisons

variable {κ : Type} [LinearOrder κ] {a b : κ} {o : Ordering}

/-- A comparison decides unless it finds two keys equal. -/
theorem isLE_compare_then : ((compare a b).then o).isLE = true ↔ a < b ∨ a = b ∧ o.isLE = true := by
  rcases lt_trichotomy a b with h | h | h
  · simp [compare_lt_iff_lt.mpr h, h]
  · simp [h]
  · simp [compare_gt_iff_gt.mpr h, h.not_gt, h.ne']

/-- A comparison alone is the order of the keys. -/
theorem isLE_compare : (compare a b).isLE = true ↔ a ≤ b :=
  Ordering.isLE_iff_ne_gt.trans compare_le_iff_le

end Comparisons

namespace Slop

/-- The rank of a severity is its place. -/
theorem severityRank_eq (s : String) : severityRank s = severityPlace s := by
  -- A severity of the list matches in any case exactly if it is the word in lower case.
  have hmatch : ∀ t ∈ severities, Text.eqIgnoringCase t s = (t == Text.lowerAscii s) := by
    intro t ht
    have hlower : ∀ t ∈ severities, Text.lowerAscii t = t := by decide
    rw [Bool.eq_iff_iff, Text.eqIgnoringCase_iff, beq_iff_eq, hlower t ht]
  simp only [severities, List.forall_mem_cons] at hmatch
  simp only [severityRank, severityPlace, severities, List.findIdx?_cons, hmatch]
  generalize Text.lowerAscii s = w
  by_cases herror : w = "error"
  · rw [herror]; rfl
  by_cases hwarning : w = "warning"
  · rw [hwarning]; rfl
  by_cases hinfo : w = "info"
  · rw [hinfo]; rfl
  by_cases hhint : w = "hint"
  · rw [hhint]; rfl
  simp [Ne.symm herror, Ne.symm hwarning, Ne.symm hinfo, Ne.symm hhint]

/-- Counts are ordered by place. -/
theorem isLE_severityOrder (c d : String × ℕ) :
    (severityOrder c d).isLE = true ↔ countPlace c ≤ countPlace d := by
  rw [severityOrder, isLE_compare_then, isLE_compare, countPlace, countPlace,
    Prod.Lex.toLex_le_toLex, severityRank_eq, severityRank_eq]

/-- Findings are ordered by place. -/
theorem Finding.isLE_order (f g : Finding) : (f.order g).isLE = true ↔ f.place ≤ g.place := by
  have hline : f.linePlace ≤ g.linePlace ↔
      (f.line.elim ⊥ WithBot.some : WithBot ℕ) ≤ g.line.elim ⊥ WithBot.some := by
    unfold linePlace
    cases f.line <;> cases g.line <;> simp
  rw [order, isLE_compare_then, isLE_compare_then, isLE_compare, place, place,
    Prod.Lex.toLex_le_toLex, Prod.Lex.toLex_le_toLex, severityRank_eq, severityRank_eq, hline]

end Slop

/-- Modules are ordered by place. -/
theorem Stats.Store.isLE_order (s t : Store) : (s.order t).isLE = true ↔ s.place ≤ t.place := by
  rw [order, isLE_compare_then, isLE_compare, place, place, Prod.Lex.toLex_le_toLex]
  simp [eq_comm]

/-- Parts of the context are ordered by place. -/
theorem Context.Item.isLE_order (i j : Item) : (i.order j).isLE = true ↔ i.place ≤ j.place := by
  rw [order, isLE_compare_then, isLE_compare_then, isLE_compare, place, place,
    Prod.Lex.toLex_le_toLex, Prod.Lex.toLex_le_toLex]
  simp [eq_comm]

/-! ### Sums -/

namespace Count

/-- A sum that is cut at each step is the sum that is cut at the end. -/
theorem foldl_add (ns : List ℕ) (n : ℕ) : ns.foldl add (min n max) = min (n + ns.sum) max := by
  induction ns generalizing n with
  | nil => simp
  | cons m ns ih =>
    have hadd : add (min n max) m = min (n + m) max := by
      rw [add]
      omega
    rw [List.foldl_cons, hadd, ih, List.sum_cons, Nat.add_assoc]

/-- Cut on the way or at the end, the sum is the same. -/
theorem sum_eq (ns : List ℕ) : sum ns = min ns.sum max := by
  have hfold := foldl_add ns 0
  rwa [Nat.zero_min, Nat.zero_add] at hfold

/-- The order in which counts are added does not matter. -/
theorem sum_eq_of_perm {ns ms : List ℕ} (h : ns.Perm ms) : sum ns = sum ms := by
  rw [sum_eq, sum_eq, h.sum_nat]

end Count

/-! ### What is kept of lists -/

variable {r : Tab.Report} {x : Json}

namespace Stats.Snapshot

/-- The modules of a snapshot are those sent, stably sorted by place. -/
theorem modules_eq_some_iff (h : r.data? memoryMethod = some x) {ys : List Store} :
    (ofReport r).modules = some ys ↔ IsStableSort Store.place (sent x) ys := by
  rw [isStableSort_iff_mergeSort_eq Store.isLE_order, ofReport, h, Option.map_some, Option.some_inj]
  rfl

/-- The bytes of a snapshot are those of all modules, whatever their order. -/
theorem totalBytes_eq (h : r.data? memoryMethod = some x) {ms : List Store}
    (hp : ms.Perm (sent x)) :
    (ofReport r).totalBytes = min (ms.map (·.bytes)).sum Count.max := by
  have hsorted : (modulesOf x).Perm ms := (List.mergeSort_perm ..).trans hp.symm
  calc
    (ofReport r).totalBytes = Count.sum ((modulesOf x).map (·.bytes)) := by
      rw [totalBytes, ofReport, h]
      rfl
    _ = min (ms.map (·.bytes)).sum Count.max := by
      rw [Count.sum_eq_of_perm (hsorted.map _), Count.sum_eq]

end Stats.Snapshot

namespace Slop.Snapshot

/-- A value of null counts as none. -/
theorem findings_eq_some_iff (h : r.data? findingsMethod = some x) {ys : List Finding} :
    (ofReport r).findings = some ys ↔
      x.isNull = false ∧ IsStableSort Finding.place (sent x) ys := by
  rw [isStableSort_iff_mergeSort_eq Finding.isLE_order]
  have hfindings : (ofReport r).findings = if x.isNull then none else some (findingsOf x) := by
    have hcontribution : r.contribution? findingsMethod = if x.isNull then none else some x := by
      rw [Tab.Report.contribution?, h]
      cases hn : x.isNull <;> simp [hn]
    rw [ofReport, hcontribution]
    cases x.isNull <;> rfl
  rw [hfindings]
  cases x.isNull with
  | true => simp
  | false =>
    simp only [Bool.false_eq_true, if_false, Option.some_inj, true_and]
    rfl

end Slop.Snapshot

namespace Context.Snapshot

/-- The parts of a snapshot are those sent, stably sorted by place. -/
theorem items_eq_iff (h : r.data? contextMethod = some x) {ys : List Item} :
    (ofReport r).items = ys ↔ IsStableSort Item.place (sent x) ys := by
  rw [isStableSort_iff_mergeSort_eq Item.isLE_order, ofReport, h]
  rfl

/-- Without a count of its own, the context uses the tokens of all its parts. -/
theorem used_eq (h : r.data? contextMethod = some x) (hn : x.countOf? usedFields = none)
    {is : List Item} (hp : is.Perm (sent x)) :
    (ofReport r).used = min (is.map (·.tokens)).sum Count.max := by
  have hsorted : (itemsOf x).Perm is := (List.mergeSort_perm ..).trans hp.symm
  calc
    (ofReport r).used = Count.sum ((itemsOf x).map (·.tokens)) := by
      rw [ofReport, h, Option.map_some, Option.getD_some, ofJson, hn, Option.getD_none]
    _ = min (is.map (·.tokens)).sum Count.max := by
      rw [Count.sum_eq_of_perm (hsorted.map _), Count.sum_eq]

end Context.Snapshot

/-- Of lists that daemons send, those elements are kept that have a name where one is needed, and
    they are sorted by place, each one once. A list of findings that is null is none. Sizes add up to
    their sum, cut at the largest count, in whatever order the elements come. -/
theorem lists_are_sorted_by_place {r : Tab.Report} {x : Json} :
    (r.data? Stats.memoryMethod = some x →
      (∀ ys, (Stats.Snapshot.ofReport r).modules = some ys ↔
        IsStableSort Stats.Store.place (Stats.Snapshot.sent x) ys) ∧
      ∀ ms : List Stats.Store, ms.Perm (Stats.Snapshot.sent x) →
        (Stats.Snapshot.ofReport r).totalBytes = min (ms.map (·.bytes)).sum Count.max) ∧
    (r.data? Slop.findingsMethod = some x →
      ∀ ys, (Slop.Snapshot.ofReport r).findings = some ys ↔
        x.isNull = false ∧ IsStableSort Slop.Finding.place (Slop.Snapshot.sent x) ys) ∧
    (r.data? Context.contextMethod = some x →
      (∀ ys, (Context.Snapshot.ofReport r).items = ys ↔
        IsStableSort Context.Item.place (Context.Snapshot.sent x) ys) ∧
      (x.countOf? Context.Snapshot.usedFields = none →
        ∀ is : List Context.Item, is.Perm (Context.Snapshot.sent x) →
          (Context.Snapshot.ofReport r).used = min (is.map (·.tokens)).sum Count.max)) ∧
    (∀ y, Stats.Store.ofJson? y = none ↔ y.wordOf? Stats.Store.nameFields = none) ∧
    ∀ y, Context.Item.ofJson? y = none ↔ y.wordOf? Context.Item.idFields = none := by
  refine ⟨fun h => ⟨?modules, ?bytes⟩, fun h ys => ?findings, fun h => ⟨?items, ?tokens⟩,
    fun _ => Option.map_eq_none_iff, fun _ => Option.map_eq_none_iff⟩
  case modules => exact fun _ => Stats.Snapshot.modules_eq_some_iff h
  case bytes => exact fun _ => Stats.Snapshot.totalBytes_eq h
  case findings => exact Slop.Snapshot.findings_eq_some_iff h
  case items => exact fun _ => Context.Snapshot.items_eq_iff h
  case tokens => exact fun hn _ => Context.Snapshot.used_eq h hn

/-- Two modules of one size, with one without a name between them. -/
theorem lists_are_sorted_by_place_modules :
    let stores : List Json :=
      [ .object [("bytes", .int 5), ("name", .string "log")]
      , .object [("bytes", .int 9)]
      , .object [("bytes", .int 5), ("name", .string "cache")] ]
    let r : Tab.Report := ⟨[⟨"getMemoryUsage", .ok (.array stores)⟩]⟩
    r.data? Stats.memoryMethod = some (.array stores) ∧
      (Stats.Snapshot.ofReport r).modules = some [⟨"cache", 5, 0⟩, ⟨"log", 5, 0⟩] ∧
      (Stats.Snapshot.ofReport r).totalBytes = 10 := by
  intro stores r
  have hdata : r.data? Stats.memoryMethod = some (.array stores) := rfl
  obtain ⟨hmodules, hbytes⟩ := lists_are_sorted_by_place.1 hdata
  refine ⟨hdata, (hmodules _).mpr ?_, hbytes _ (.refl _)⟩
  have hsent : Stats.Snapshot.sent (.array stores) = [⟨"log", 5, 0⟩, ⟨"cache", 5, 0⟩] := rfl
  have hlt : (⟨"cache", 5, 0⟩ : Stats.Store).place < (⟨"log", 5, 0⟩ : Stats.Store).place :=
    lt_of_not_ge fun hle => absurd ((Stats.Store.isLE_order _ _).mpr hle) (by decide +kernel)
  rw [hsent]
  refine ⟨.swap .., List.pairwise_pair.mpr hlt.le, fun k => ?_⟩
  by_cases hk : (⟨"log", 5, 0⟩ : Stats.Store).place = k
  · simp [← hk, hlt.ne]
  · simp [List.filter_cons, hk]

/-- A list of findings that is null is none, though the call that brought it succeeded. -/
theorem findings_of_null_are_none :
    let r : Tab.Report := ⟨[⟨"getFindings", .ok .null⟩]⟩
    (r.succeeded Slop.findingsMethod = true ∧ r.data? Slop.findingsMethod = some .null ∧
      IsStableSort Slop.Finding.place (Slop.Snapshot.sent .null) []) ∧
      (Slop.Snapshot.ofReport r).findings = none := by
  intro r
  have hsent : Slop.Snapshot.sent .null = [] := rfl
  exact ⟨⟨rfl, rfl, hsent ▸ ⟨.nil, .nil, fun _ => rfl⟩⟩, rfl⟩

end Dashboard
