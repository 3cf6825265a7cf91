import Dashboard.Json.Spelling
import Dashboard.Proofs.JsonValues
import Mathlib.Data.List.Pairwise
import Mathlib.Data.Option.Basic
/-!
# A field is read alike in every spelling

No two fields of a record have a name in common, so a member that comes under another name of its
field is found again by that field and by no other.

* `Json.Members.field?_of_sole`, `Json.Members.field?_rel` — which member a field is read from.
* `Json.Record.Renames.of_name` — what becomes of the members of one field.
* `Json.Record.Respells.fields` — all fields of a record correspond in two spellings of it.
* `Json.Listing.Respells.listing`, `Json.Listing.Respells.others` — so do the items of a list and
  the fields beside it.
-/

namespace Dashboard.Json

variable {same : Json → Json → Prop} {ms ns : Members} {names : Aliases} {x y : Json}

/-! ### The member that a field is read from -/

/-- Values that may be missing correspond to themselves. -/
theorem rel_refl (h : ∀ x, same x x) (o : Option Json) : Option.Rel same o o := by
  cases o with
  | none => exact .none
  | some x => exact .some (h x)

/-- A null corresponds to a null, so values still correspond where nulls are left out. -/
theorem rel_filter (hnull : ∀ {x y}, same x y → y.isNull = x.isNull) {o p : Option Json}
    (h : Option.Rel same o p) :
    Option.Rel same (o.filter fun x => !x.isNull) (p.filter fun x => !x.isNull) := by
  cases h with
  | none => exact .none
  | @some x y h =>
    rw [Option.filter_some, Option.filter_some, hnull h]
    split
    · exact .some h
    · exact .none

/-- Values that are the same. -/
theorem rel_eq_iff {o p : Option Json} : Option.Rel Eq o p ↔ p = o := by
  constructor
  · intro h
    cases h with
    | none => rfl
    | some h => rw [h]
  · rintro rfl
    exact rel_refl (fun _ => rfl) p

/-- A value that is missing counts as null. -/
theorem rel_getD (hnull : same .null .null) {o p : Option Json} (h : Option.Rel same o p) :
    same (o.getD .null) (p.getD .null) := by
  cases h with
  | none => exact hnull
  | some h => exact h

namespace Members

/-- Sorted members have distinct names. -/
theorem nodup_of_sorted (h : ms.sorted = ms) : (ms.map (·.1)).Nodup :=
  (h ▸ ascending_sorted ms : ms.Ascending).nodup

/-- If an object has one value only under the names of a field, that value counts, unless it is
    null. -/
theorem field?_of_sole (hsole : ∀ name ∈ names, ∀ v, ms.find? name = some v → v = x)
    (hfound : ∃ name ∈ names, ms.find? name = some x) :
    ms.field? names = (some x).filter fun x => !x.isNull := by
  have hall : ∀ v ∈ names.filterMap ms.find?, v = x := by
    intro v hv
    obtain ⟨name, hname, hfind⟩ := List.mem_filterMap.mp hv
    exact hsole name hname v hfind
  have hmem : x ∈ names.filterMap ms.find? := List.mem_filterMap.mpr hfound
  rw [field?, Option.filter_some]
  -- All values that are found are one, so it matters only whether it is null.
  split
  · rename_i hx
    cases hfind : (names.filterMap ms.find?).find? fun x => !x.isNull with
    | none => exact absurd hx (List.find?_eq_none.mp hfind x hmem)
    | some v => rw [hall v (List.mem_of_find?_eq_some hfind)]
  · rename_i hx
    refine List.find?_eq_none.mpr fun v hv => ?_
    rw [hall v hv]
    exact hx

/-- A field is read alike if its values correspond under every name. -/
theorem field?_rel (hnull : ∀ {x y}, same x y → y.isNull = x.isNull)
    (h : ∀ name ∈ names, Option.Rel same (ms.find? name) (ns.find? name)) :
    Option.Rel same (ms.field? names) (ns.field? names) := by
  induction names with
  | nil => exact .none
  | cons name names ih =>
    have htail := ih fun other hother => h other (List.mem_cons_of_mem _ hother)
    have hhead := h name List.mem_cons_self
    unfold field? at htail ⊢
    generalize hm : ms.find? name = o at hhead
    generalize hn : ns.find? name = p at hhead
    -- Under the first name there is no value on either side, or two that are null together.
    cases hhead with
    | none => rwa [List.filterMap_cons_none hm, List.filterMap_cons_none hn]
    | @some v w hvalue =>
      rw [List.filterMap_cons_some hm, List.filterMap_cons_some hn, List.find?_cons,
        List.find?_cons, hnull hvalue]
      cases v.isNull with
      | true => exact htail
      | false => exact .some hvalue

end Members

/-! ### Records -/

namespace Record

variable {r : Record} {f g : Field} {m n : String × Json}

/-- No two fields have a name in common. -/
theorem eq_of_name (hf : f ∈ r.fields) (hg : g ∈ r.fields) {name : String} (hnf : name ∈ f.names)
    (hng : name ∈ g.names) : f = g := by
  by_contra hne
  have hsymm : Std.Symm Field.Apart := ⟨fun _ _ h name hg hf => h name hf hg⟩
  exact r.apart.forall hf hg hne name hnf hng

/-- A member of a field stays one of it, its value is replaced as the field allows, and it keeps its
    name if the object has the field under another name, too. -/
theorem Renames.of_name (h : r.Renames ms m n) (hf : f ∈ r.fields)
    (hname : m.1 ∈ f.names ∨ n.1 ∈ f.names) :
    m.1 ∈ f.names ∧ n.1 ∈ f.names ∧ f.same m.2 n.2 ∧
      (n.1 = m.1 ∨ ∀ other ∈ ms, other.1 ∈ f.names → other.1 = m.1) := by
  cases h with
  | other hother => exact absurd (hname.elim id id) (hother f hf)
  | @kept g name x y hg hn hsame =>
    obtain rfl : f = g := eq_of_name hf hg (hname.elim id id) hn
    exact ⟨hn, hn, hsame, .inl rfl⟩
  | @moved g name newName x y hg hn hnew _ hsame hsole =>
    obtain rfl : f = g := by
      rcases hname with hname | hname
      · exact eq_of_name hf hg hname hn
      · exact eq_of_name hf hg hname hnew
    exact ⟨hn, hnew, hsame, .inr hsole⟩

section

variable {rename : String × Json → String × Json} (hsorted : ms.sorted = ms)
  (hrename : ∀ m ∈ ms, r.Renames ms m (rename m)) (hf : f ∈ r.fields)

include hsorted

/-- Members with one name are one member. -/
theorem eq_of_mem (hm : m ∈ ms) (hn : n ∈ ms) (h : m.1 = n.1) : m = n := by
  have hnodup := Members.nodup_of_sorted hsorted
  have hfm : ms.find? m.1 = some m.2 := Members.find?_of_mem hnodup hm
  have hfn : ms.find? n.1 = some n.2 := Members.find?_of_mem hnodup hn
  rw [h, hfn, Option.some_inj] at hfm
  exact Prod.ext h hfm.symm

omit hsorted in
/-- What is found in the new spelling was found in the old one. -/
theorem exists_of_find? {name : String} {w : Json}
    (h : (Members.sorted (ms.map rename)).find? name = some w) :
    ∃ m ∈ ms, rename m = (name, w) := by
  rw [Members.find?_sorted] at h
  exact List.mem_map.mp (List.mem_reverse.mp (Members.mem_of_find? h))

omit hsorted in
/-- Under the name that a member comes to something is found. -/
theorem exists_find? (rename : String × Json → String × Json) (hm : m ∈ ms) :
    ∃ w, (Members.sorted (ms.map rename)).find? (rename m).1 = some w := by
  refine Option.ne_none_iff_exists'.mp fun hnone => ?_
  rw [Members.find?_sorted, Members.find?_eq_none, List.map_reverse, List.mem_reverse] at hnone
  exact hnone (List.mem_map.mpr ⟨rename m, List.mem_map.mpr ⟨m, hm, rfl⟩, rfl⟩)

include hrename hf

/-- A field that comes under another name. -/
theorem field?_of_moved (hm : m ∈ ms) (hname : m.1 ∈ f.names) (hmoved : (rename m).1 ≠ m.1) :
    Option.Rel f.same (ms.field? f.names)
      (Members.field? (Members.sorted (ms.map rename)) f.names) := by
  obtain ⟨-, hnew, hsame, hsole⟩ := (hrename m hm).of_name hf (.inl hname)
  -- In both spellings the object has one member only under the names of the field.
  have honly : ∀ n ∈ ms, n.1 ∈ f.names → n = m := fun n hn hnn =>
    eq_of_mem hsorted hn hm (hsole.resolve_left hmoved n hn hnn)
  have hold : ∀ name ∈ f.names, ∀ v, ms.find? name = some v → v = m.2 := fun name hnn v hv =>
    congrArg Prod.snd (honly (name, v) (Members.mem_of_find? hv) hnn)
  have hthere : ∀ name ∈ f.names, ∀ w,
      (Members.sorted (ms.map rename)).find? name = some w → w = (rename m).2 := by
    intro name hnn w hw
    obtain ⟨n, hn, hrn⟩ := exists_of_find? hw
    have hback := ((hrename n hn).of_name hf (.inr (hrn ▸ hnn))).1
    rw [← honly n hn hback, hrn]
  have hnodup := Members.nodup_of_sorted hsorted
  obtain ⟨w, hw⟩ := exists_find? rename hm
  rw [Members.field?_of_sole hold ⟨m.1, hname, Members.find?_of_mem hnodup hm⟩,
    Members.field?_of_sole hthere ⟨_, hnew, hthere _ hnew w hw ▸ hw⟩]
  exact rel_filter f.isNull_eq (.some hsame)

/-- A field that keeps its names. -/
theorem field?_of_kept (hkept : ∀ m ∈ ms, m.1 ∈ f.names → (rename m).1 = m.1) :
    Option.Rel f.same (ms.field? f.names)
      (Members.field? (Members.sorted (ms.map rename)) f.names) := by
  refine Members.field?_rel f.isNull_eq fun name hname => ?_
  -- No member comes to `name` but one that had it: other fields keep off the names of this one.
  have hback : ∀ w, (Members.sorted (ms.map rename)).find? name = some w →
      ∃ v, (name, v) ∈ ms ∧ f.same v w := by
    intro w hw
    obtain ⟨m, hm, hrm⟩ := exists_of_find? hw
    obtain ⟨hmn, -, hsame, -⟩ := (hrename m hm).of_name hf (.inr (hrm ▸ hname))
    have hm1 : m.1 = name := by rw [← hkept m hm hmn, hrm]
    rw [hrm] at hsame
    exact ⟨m.2, hm1 ▸ hm, hsame⟩
  have hnodup := Members.nodup_of_sorted hsorted
  cases hthere : (Members.sorted (ms.map rename)).find? name with
  | some w =>
    obtain ⟨v, hv, hsame⟩ := hback w hthere
    rw [Members.find?_of_mem hnodup hv]
    exact .some hsame
  | none =>
    cases hold : ms.find? name with
    | none => exact .none
    | some v =>
      have hmem := Members.mem_of_find? hold
      obtain ⟨w, hw⟩ := exists_find? rename hmem
      rw [hkept _ hmem hname, hthere] at hw
      cases hw

end

/-- All fields of a record correspond in two spellings of it. -/
theorem Respells.fields (h : r.Respells x y) :
    ∀ f ∈ r.fields, Option.Rel f.same (x.field? f.names) (y.field? f.names) := by
  intro f hf
  cases h with
  | same => exact rel_refl f.refl _
  | @object ms rename hsorted hrename =>
    show Option.Rel f.same (ms.field? f.names) (Members.field? _ f.names)
    by_cases hmoved : ∃ m ∈ ms, m.1 ∈ f.names ∧ (rename m).1 ≠ m.1
    · obtain ⟨m, hm, hname, hne⟩ := hmoved
      exact field?_of_moved hsorted hrename hf hm hname hne
    · refine field?_of_kept hsorted hrename hf fun m hm hname => ?_
      by_contra hne
      exact hmoved ⟨m, hm, hname, hne⟩

theorem Respells.isNull_eq (h : r.Respells x y) : y.isNull = x.isNull := by
  cases h <;> rfl

end Record

/-! ### Lists -/

section

variable {α : Type} {item : Json → Json → Prop} {xs ys : List Json}

/-- Items that correspond and are read alike make the same list. -/
theorem map_eq_of_forall₂ {read : Json → α} (h : List.Forall₂ item xs ys)
    (hread : ∀ {x y}, item x y → read y = read x) : ys.map read = xs.map read := by
  induction h with
  | nil => rfl
  | cons hxy _ ih => rw [List.map_cons, List.map_cons, hread hxy, ih]

/-- Items that correspond and are read alike make the same list, also where some are left out. -/
theorem filterMap_eq_of_forall₂ {read? : Json → Option α} (h : List.Forall₂ item xs ys)
    (hread : ∀ {x y}, item x y → read? y = read? x) : ys.filterMap read? = xs.filterMap read? := by
  induction h with
  | nil => rfl
  | cons hxy _ ih => rw [List.filterMap_cons, List.filterMap_cons, hread hxy, ih]

/-- The items of a field that holds a list correspond if its values do. -/
theorem listOf_rel (hrefl : ∀ x, item x x)
    (h : Option.Rel (Elements item) (x.field? names) (y.field? names)) :
    List.Forall₂ item (x.listOf names) (y.listOf names) := by
  have hsame (zs : List Json) : List.Forall₂ item zs zs := List.forall₂_same.mpr fun z _ => hrefl z
  unfold listOf
  generalize x.field? names = o at h ⊢
  generalize y.field? names = p at h ⊢
  cases h with
  | none => exact hsame []
  | some hvalue =>
    cases hvalue with
    | same => exact hsame _
    | items hitems => exact hitems

end

namespace Listing

variable {l : Listing}

/-- A list is spelled like itself. -/
theorem Respells.refl (x : Json) : l.Respells x x := .record (.same x)

/-- The items of a list correspond in two spellings of it. -/
theorem Respells.listing (h : l.Respells x y) :
    List.Forall₂ l.item.Respells (x.listing l.names) (y.listing l.names) := by
  cases h with
  | record h =>
    cases h with
    | same => exact List.forall₂_same.mpr fun z _ => .same z
    | object rename hsorted hrename =>
      exact listOf_rel .same
        (Record.Respells.fields (.object rename hsorted hrename) _ List.mem_cons_self)
  | bare h => exact h
  | @unwrapped name xs ys hname h =>
    -- The list is all that the object has.
    have hfield : (Json.object [(name, .array xs)]).field? l.names = some (.array xs) := by
      refine (Members.field?_of_sole (x := .array xs) (fun other _ v hv => ?_)
        ⟨name, hname, ?_⟩).trans rfl
      · rw [Members.find?_cons] at hv
        split at hv
        · exact (Option.some.inj hv).symm
        · cases hv
      · rw [Members.find?_cons, if_pos rfl]
    show List.Forall₂ l.item.Respells (listOf _ l.names) ys
    rw [listOf, hfield]
    exact h

/-- The fields beside a list correspond in two spellings of it. -/
theorem Respells.others (h : l.Respells x y) :
    ∀ f ∈ l.others, Option.Rel f.same (x.field? f.names) (y.field? f.names) := by
  intro f hf
  cases h with
  | record h => exact h.fields f (List.mem_cons_of_mem _ hf)
  | bare => exact .none
  | @unwrapped name xs ys hname =>
    -- The name of the list is none of the names of another field.
    have hfield : (Json.object [(name, .array xs)]).field? f.names = none := by
      have hnone : f.names.filterMap (Members.find? [(name, .array xs)]) = [] := by
        rw [List.filterMap_eq_nil_iff]
        intro other hother
        have hne : name ≠ other := by
          rintro rfl
          exact List.rel_of_pairwise_cons l.apart hf name hname hother
        rw [Members.find?_cons, if_neg hne, Members.find?_nil]
      show List.find? _ (f.names.filterMap _) = none
      rw [hnone, List.find?_nil]
    rw [hfield]
    exact .none

/-- What is null is null in every spelling of a list. -/
theorem Respells.isNull_eq (h : l.Respells x y) : y.isNull = x.isNull := by
  cases h with
  | record h => exact h.isNull_eq
  | bare => rfl
  | unwrapped => rfl

end Listing

end Dashboard.Json
