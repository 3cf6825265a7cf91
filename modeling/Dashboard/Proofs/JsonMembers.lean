import Dashboard.Json.Record
import Dashboard.Payload
/-!
# Members of JSON objects

* `find?_put`, `find?_foldl_put`, `find?_sorted` — of members with one name the last one counts.
* `ascending_put`, `ascending_sorted` — sorted members have names of their own.
* `find?_of_mem`, `find?_sorted_of_mem` — a member with a name of its own is found under it.
* `find?_filter_ne` — members with another name may go.
* `ascending_of_normal`, `exists_normal_of_find?` — the members of a value in normal form are sorted
  and in normal form.
* `Fields.get?_members` — the fields of a record whose members have names of their own.
* `Members.Leads`, `field?_put` — the name under which a field with several names is read.
-/

namespace Dashboard.Json

namespace Members

variable {ms acc : Members} {name n : String} {value x : Json}

@[simp] theorem find?_nil : find? [] name = none := rfl

@[simp] theorem find?_cons (m : String × Json) (ms : Members) (name : String) :
    find? (m :: ms) name = if m.1 = name then some m.2 else ms.find? name := by
  by_cases hm : m.1 = name <;> simp [find?, hm]

/-- Nothing is found under a name that no member has. -/
theorem find?_eq_none : ms.find? name = none ↔ name ∉ ms.map (·.1) := by
  induction ms with
  | nil => simp
  | cons m ms ih =>
    by_cases hm : m.1 = name
    · simp [hm]
    · simp [hm, Ne.symm hm, ih]

/-- What is found is the value of a member of that name. -/
theorem mem_of_find? (hf : ms.find? name = some x) : (name, x) ∈ ms := by
  induction ms with
  | nil => cases hf
  | cons m ms ih =>
    rw [find?_cons] at hf
    split at hf
    case isTrue hm =>
      cases hf
      exact hm ▸ List.mem_cons_self
    case isFalse => exact List.mem_cons_of_mem _ (ih hf)

/-- Where no two members share a name, the value of each is found. -/
theorem find?_of_mem (hn : (ms.map (·.1)).Nodup) (hm : (name, x) ∈ ms) :
    ms.find? name = some x := by
  induction ms with
  | nil => cases hm
  | cons m ms ih =>
    obtain ⟨hhead, htail⟩ := List.nodup_cons.mp hn
    rw [find?_cons]
    rcases List.mem_cons.mp hm with rfl | hm
    · simp
    · have hne : m.1 ≠ name := fun heq => hhead (List.mem_map.mpr ⟨_, hm, heq.symm⟩)
      rw [if_neg hne, ih htail hm]

/-- Members with other names are found as before when those with one name are left out. -/
theorem find?_filter_ne (ms : Members) (hn : name ≠ n) :
    find? (ms.filter (·.1 != n)) name = ms.find? name := by
  induction ms with
  | nil => rfl
  | cons m ms ih =>
    by_cases hm : m.1 = n
    · simp [hm, Ne.symm hn, ih]
    · simp [hm, ih]

/-! ### Sorted members -/

/-- A value that is put under a name is found there, and every other name keeps its value. -/
theorem find?_put (n : String) (value : Json) (ms : Members) (name : String) :
    (ms.put n value).find? name = if n = name then some value else ms.find? name := by
  induction ms with
  | nil => simp [put]
  | cons m ms ih =>
    obtain ⟨k, v⟩ := m
    by_cases hk : n = k
    · subst hk
      by_cases hn : n = name <;> simp [put, hn]
    by_cases hlt : n < k
    · -- The new member stands in front of the others.
      simp [put, hk, hlt]
    · simp only [put, hk, hlt, if_false, find?_cons, ih]
      by_cases hn : n = name
      · simp [hn, show ¬ k = name from fun h => hk (hn.trans h.symm)]
      · simp [hn]

/-- Of members that are put one after another the last of a name counts; a name that none has keeps
    its value. -/
theorem find?_foldl_put (ms acc : Members) (name : String) :
    (ms.foldl (fun acc m => put m.1 m.2 acc) acc).find? name =
      (find? ms.reverse name).or (acc.find? name) := by
  induction ms generalizing acc with
  | nil => rfl
  | cons m ms ih =>
    rw [List.foldl_cons, ih, find?_put, List.reverse_cons]
    simp only [find?, List.find?_append, List.find?_singleton]
    cases (List.find? (fun m => m.1 == name) ms.reverse) with
    | some => rfl
    | none => by_cases hm : m.1 = name <;> simp [hm]

/-- Of members with one name the last one counts. -/
theorem find?_sorted (ms : Members) (name : String) :
    ms.sorted.find? name = find? ms.reverse name := by
  rw [sorted, find?_foldl_put]
  exact Option.or_none

/-- Sorting loses no member if no two share a name. -/
theorem find?_sorted_of_mem (hn : (ms.map (·.1)).Nodup) (hm : (name, x) ∈ ms) :
    ms.sorted.find? name = some x := by
  rw [find?_sorted]
  refine find?_of_mem ?_ (List.mem_reverse.mpr hm)
  rw [List.map_reverse]
  exact (List.reverse_perm _).nodup_iff.mpr hn

/-- The names of members ascend. -/
def Ascending (ms : Members) : Prop := (ms.map (·.1)).Pairwise (· < ·)

/-- Only the name that is put is new. -/
theorem mem_names_put {k : String} :
    k ∈ (ms.put n value).map (·.1) → k = n ∨ k ∈ ms.map (·.1) := by
  intro hk
  by_cases hn : k = n
  · exact .inl hn
  · refine .inr (Classical.byContradiction fun hm => ?_)
    have hf := find?_put n value ms k
    rw [if_neg (Ne.symm hn), find?_eq_none.mpr hm] at hf
    exact find?_eq_none.mp hf hk

/-- Members in the order of their names stay so when one is put among them. -/
theorem ascending_put (ha : ms.Ascending) : (ms.put n value).Ascending := by
  induction ms with
  | nil => simp [put, Ascending]
  | cons m ms ih =>
    obtain ⟨k, v⟩ := m
    obtain ⟨hhead, htail⟩ := List.pairwise_cons.mp ha
    -- The new member replaces one, or stands before the first that has a later name.
    by_cases hk : n = k
    · subst hk
      simpa [put, Ascending] using ha
    by_cases hlt : n < k
    · simp only [put, hk, hlt, if_false, if_true]
      refine List.pairwise_cons.mpr ⟨?_, ha⟩
      intro k' hk'
      rcases List.mem_cons.mp hk' with rfl | hk'
      · exact hlt
      · exact String.lt_trans hlt (hhead k' hk')
    · simp only [put, hk, hlt, if_false]
      refine List.pairwise_cons.mpr ⟨?_, ih htail⟩
      intro k' hk'
      rcases mem_names_put hk' with rfl | hk'
      · exact Std.lt_of_le_of_ne (String.not_lt.mp hlt) (Ne.symm hk)
      · exact hhead k' hk'

/-- Sorted members stand in the order of their names. -/
theorem ascending_sorted (ms : Members) : ms.sorted.Ascending := by
  suffices hfold : ∀ acc : Members, acc.Ascending →
      Ascending (ms.foldl (fun acc m => put m.1 m.2 acc) acc) from hfold [] List.Pairwise.nil
  induction ms with
  | nil => exact fun _ ha => ha
  | cons m ms ih => exact fun acc ha => ih _ (ascending_put ha)

/-- No two members in the order of their names share one. -/
theorem Ascending.nodup (ha : ms.Ascending) : (ms.map (·.1)).Nodup :=
  List.Pairwise.imp (fun {_ _} hlt => Std.ne_of_lt hlt) ha

end Members

/-! ### Values in normal form -/

variable {ms : Members} {name : String} {x : Json}

/-- The values of members are put in order one by one. -/
theorem normalMembers_eq_map (ms : Members) :
    normalMembers ms = ms.map fun m => (m.1, normal m.2) := by
  induction ms with
  | nil => rfl
  | cons m ms ih => simp [normalMembers, ih]

/-- The members of a value in normal form ascend. -/
theorem ascending_of_normal {y : Json} (hx : normal y = .object ms) : ms.Ascending := by
  cases y with
  | object ms' =>
    simp only [normal, object.injEq] at hx
    exact hx ▸ Members.ascending_sorted _
  | _ => simp [normal] at hx

/-- The members of a value in normal form are in normal form. -/
theorem exists_normal_of_find? {y : Json} (hy : normal y = .object ms)
    (hf : ms.find? name = some x) : ∃ z, x = normal z := by
  cases y with
  | object ms' =>
    simp only [normal, object.injEq] at hy
    rw [← hy, Members.find?_sorted] at hf
    have hm := Members.mem_of_find? hf
    rw [List.mem_reverse, normalMembers_eq_map] at hm
    obtain ⟨m, -, heq⟩ := List.mem_map.mp hm
    exact ⟨m.2, (Prod.mk.inj heq).2.symm⟩
  | _ => simp [normal] at hy

/-! ### Fields -/

/-- A field of an object is read by its name, wherever it stands. -/
theorem Fields.get?_members (hn : (ms.map (·.1)).Nodup) (name : String) (place : Nat) :
    (members ms).get? name place = some (ms.find? name) := by
  -- Of distinct names at most one is the one that is looked for.
  have hfilter : ms.filter (·.1 == name) =
      (Members.find? ms name).toList.map fun x => (name, x) := by
    induction ms with
    | nil => rfl
    | cons m ms ih =>
      obtain ⟨hm, hn⟩ := List.nodup_cons.mp hn
      by_cases heq : m.1 = name
      · subst heq
        have hnone : Members.find? ms m.1 = none := Members.find?_eq_none.mpr hm
        have htail := ih hn
        rw [hnone] at htail
        simp [htail]
      · simpa [List.filter_cons, heq] using ih hn
  simp only [get?, hfilter]
  cases Members.find? ms name <;> rfl

/-! ### Fields with several names -/

/-- Of the names of a field this one is the first that can have a value: those before it are other
    names, and the object has nothing but null under them. -/
def Members.Leads (ms : Members) (names : Aliases) (name : String) : Prop :=
  ∃ earlier later, names = earlier ++ name :: later ∧
    ∀ other ∈ earlier, other ≠ name ∧ (ms.find? other).all isNull = true

variable {names : Aliases} {value : Json}

/-- The field is read from the member with the name that leads. -/
theorem field?_put (hl : ms.Leads names name) (hv : value.isNull = false) :
    (Json.object (ms.put name value)).field? names = some value := by
  obtain ⟨earlier, later, rfl, hearlier⟩ := hl
  -- Under the names that come before there is nothing, or null.
  have hskip : (earlier.filterMap (ms.put name value).find?).find? (fun x => !x.isNull) = none := by
    rw [List.find?_eq_none]
    intro x hx
    obtain ⟨other, hother, hfound⟩ := List.mem_filterMap.mp hx
    obtain ⟨hne, hnull⟩ := hearlier other hother
    rw [Members.find?_put, if_neg hne.symm] at hfound
    rw [hfound, Option.all_some] at hnull
    rw [hnull]
    decide
  have hfound : (ms.put name value).find? name = some value := by
    rw [Members.find?_put, if_pos rfl]
  rw [field?, members?, Option.bind_some, Members.field?, List.filterMap_append,
    List.find?_append, hskip, Option.none_or, List.filterMap_cons_some hfound,
    List.find?_cons_of_pos (by rw [hv]; rfl)]

end Dashboard.Json
