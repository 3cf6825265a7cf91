import Dashboard.Tab.Ranking
/-!
# Lists sorted by place

* `IsStableSort.mergeSort` — the list that is sorted by a comparison of places.
* `IsStableSort.eq`, `isStableSort_iff_mergeSort_eq` — there is no other.
-/

namespace Dashboard

variable {α κ : Type} [LinearOrder κ] {place : α → κ} {xs ys zs : List α}

namespace IsStableSort

/-- Merge sort by a comparison of places sorts by place. -/
theorem mergeSort {le : α → α → Bool} (hle : ∀ a b, le a b = true ↔ place a ≤ place b)
    (xs : List α) : IsStableSort place xs (xs.mergeSort le) := by
  have htrans : ∀ a b c, le a b = true → le b c = true → le a c = true := fun a b c hab hbc =>
    (hle a c).mpr (le_trans ((hle a b).mp hab) ((hle b c).mp hbc))
  have htotal : ∀ a b, (le a b || le b a) = true := fun a b => by
    rw [Bool.or_eq_true, hle, hle]
    exact le_total ..
  have hperm := List.mergeSort_perm xs le
  refine ⟨hperm, (List.pairwise_mergeSort htrans htotal xs).imp fun h => (hle ..).mp h, fun k => ?_⟩
  -- Elements with one place are sorted already, so they are a sublist of the result as well.
  have htied : (xs.filter (place · = k)).Pairwise (le · · = true) := by
    refine List.pairwise_of_forall_mem_list fun a ha b hb => (hle a b).mpr ?_
    have hplace {a : α} (ha : a ∈ xs.filter (place · = k)) : place a = k := by
      simpa using (List.mem_filter.mp ha).2
    rw [hplace ha, hplace hb]
  have hsub := (List.sublist_mergeSort htrans htotal htied List.filter_sublist).filter (place · = k)
  rw [List.filter_filter] at hsub
  simp only [Bool.and_self] at hsub
  exact (hsub.eq_of_length (hperm.filter _).length_eq.symm).symm

/-- The first of two sorted lists with the same elements have the same place. -/
theorem head_place_eq {y z : α} (hy : IsStableSort place xs (y :: ys))
    (hz : IsStableSort place xs (z :: zs)) : place y = place z := by
  have hperm := hy.perm.trans hz.perm.symm
  have hle {a b : α} {as bs : List α} (hp : (a :: as).Perm (b :: bs))
      (ha : (a :: as).Pairwise fun a b => place a ≤ place b) : place a ≤ place b := by
    rcases List.mem_cons.mp (hp.mem_iff.mpr List.mem_cons_self) with rfl | hmem
    · exact le_rfl
    · exact (List.pairwise_cons.mp ha).1 b hmem
  exact le_antisymm (hle hperm hy.ascending) (hle hperm.symm hz.ascending)

/-- There is one list that is sorted by place. -/
theorem eq (hy : IsStableSort place xs ys) (hz : IsStableSort place xs zs) : ys = zs := by
  induction ys generalizing xs zs with
  | nil => exact (List.nil_perm.mp (hy.perm.trans hz.perm.symm)).symm
  | cons y ys ih =>
    cases zs with
    | nil => exact absurd (hy.perm.trans hz.perm.symm) (List.not_perm_cons_nil)
    | cons z zs =>
      have hplace := head_place_eq hy hz
      -- The two heads lead the elements with their place, which are the same in both lists.
      have htied (k : κ) := (hy.stable k).trans (hz.stable k).symm
      have hheads := htied (place z)
      simp only [List.filter_cons, hplace, decide_true, if_true, List.cons.injEq] at hheads
      obtain ⟨rfl, -⟩ := hheads
      have hrest : IsStableSort place ys zs := by
        refine ⟨?_, (List.pairwise_cons.mp hz.ascending).2, fun k => ?_⟩
        · exact ((List.perm_cons y).mp (hz.perm.trans hy.perm.symm))
        · have hk := htied k
          simp only [List.filter_cons] at hk
          split at hk
          · exact (List.cons.inj hk).2.symm
          · exact hk.symm
      have hself : IsStableSort place ys ys :=
        ⟨.refl _, (List.pairwise_cons.mp hy.ascending).2, fun _ => rfl⟩
      rw [ih hself hrest]

end IsStableSort

/-- Merge sort by a comparison of places makes the one list that is sorted by place. -/
theorem isStableSort_iff_mergeSort_eq {le : α → α → Bool}
    (hle : ∀ a b, le a b = true ↔ place a ≤ place b) :
    IsStableSort place xs ys ↔ xs.mergeSort le = ys :=
  ⟨(IsStableSort.mergeSort hle xs).eq, fun h => h ▸ .mergeSort hle xs⟩

end Dashboard
