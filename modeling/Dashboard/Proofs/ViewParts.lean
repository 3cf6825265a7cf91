import Dashboard.Markup.Element
import Dashboard.Tab.Part
/-!
# The parts of a view stand in it

What is true of every element of the view of a tab is true of the elements of its parts, so the
parts are there to be seen and not just made.

* `every_children`, `every_rows` and others — from a fragment to what it is made of.
* `Tab.every_parts` — from the view of a tab to its parts.
* `Tab.parts_subset` — the elements of a part are elements of the view.
-/

namespace Dashboard

open Markup Markup.Node

variable {P : Element Empty → Prop}

/-! ### Fragments -/

section

variable {tag : Tag} {as : List Attribute} {classes title : String} {titles : List String}
  {actions ns rows : List (Node Empty)}

/-- What all elements have, the children of one of them have. -/
theorem every_children (h : Every P (element tag as ns)) : EveryAll P ns :=
  ((every_element ..).mp h).2

/-- What all elements of a table have, its rows have. -/
theorem every_rows (h : Every P (table classes titles rows)) : EveryAll P rows := by
  simp only [table, classed, bare, every_element, everyAll_cons] at h
  exact h.2.2.1.2

/-- The same of a table without a head. -/
theorem every_plainRows (h : Every P (plainTable classes rows)) : EveryAll P rows := by
  simp only [plainTable, classed, bare, every_element, everyAll_cons] at h
  exact h.2.1.2

/-- What all elements of a section have, its body has. -/
theorem every_sectionBody (h : Every P (panelSectionWith title actions ns)) : EveryAll P ns :=
  ((everyAll_cons ..).mp (every_children h)).2

theorem every_plainSectionBody (h : Every P (panelSection title ns)) : EveryAll P ns :=
  ((everyAll_cons ..).mp (every_children h)).2

/-- What all elements of a view have, those of the data in it have, once there are data. -/
theorem Tab.LoadState.every_data {σ : Type} {s : LoadState σ} {p : Presentation σ} {x : σ}
    (hx : s.snapshot = some x) (h : Every P (s.content p)) : EveryAll P (p.data x) := by
  have hall := every_children h
  simp only [branch, hx, everyAll_append] at hall
  exact hall.2

end

/-! ### The tabs -/

/-- A module that is found is listed. -/
theorem Stats.Snapshot.exists_of_module? {x : Snapshot} {selected : Option String} {m : Store}
    (h : selected.bind x.module? = some m) : ∃ ms, x.modules = some ms ∧ m ∈ ms := by
  obtain ⟨name, -, hname⟩ := Option.bind_eq_some_iff.mp h
  obtain ⟨ms, hms, hfind⟩ := Option.bind_eq_some_iff.mp hname
  exact ⟨ms, hms, List.mem_of_find?_eq_some hfind⟩

/-- The module that is shown is listed. -/
theorem Tools.Snapshot.exists_of_active? {x : Snapshot} {selected : Option String} {k : Kit}
    (h : x.active? selected = some k) : ∃ ks, x.modules = some ks ∧ k ∈ ks := by
  rcases Option.or_eq_some_iff.mp h with h | ⟨-, h⟩
  · obtain ⟨name, -, hname⟩ := Option.bind_eq_some_iff.mp h
    obtain ⟨ks, hks, hfind⟩ := Option.bind_eq_some_iff.mp hname
    exact ⟨ks, hks, List.mem_of_find?_eq_some hfind⟩
  · obtain ⟨ks, hks, hhead⟩ := Option.bind_eq_some_iff.mp h
    exact ⟨ks, hks, List.mem_of_head? hhead⟩

/-- The rows of the jobs stand in the view. -/
theorem Cron.State.every_parts {s : State} {now : Time.Instant} (h : Every P (s.content now)) :
    ∀ part ∈ s.parts now, Every P part.node := by
  refine forall_mem_parts.mpr fun x hx j hj => ?_
  obtain ⟨hjobs, -⟩ := (everyAll_cons ..).mp (Tab.LoadState.every_data hx h)
  obtain ⟨htable, -⟩ := (everyAll_cons ..).mp (every_sectionBody hjobs)
  rw [if_neg (by simpa using List.ne_nil_of_mem hj)] at htable
  exact (everyAll_map ..).mp (every_rows htable) j hj

/-- The rows of the modules and the details of the chosen one stand in the view. -/
theorem Stats.State.every_parts {s : State} {now : Time.Instant} (h : Every P (s.content now)) :
    ∀ part ∈ s.parts, Every P part.node := by
  refine forall_mem_parts.mpr fun x hx => ?_
  have hview := Tab.LoadState.every_data hx h
  simp only [Snapshot.view, everyAll_cons] at hview
  have hmemory := every_plainSectionBody hview.2.1
  -- Rows and details stand in a view that has something to list.
  have hshown {ms : List Store} {m : Store} (hms : x.modules = some ms) (hm : m ∈ ms) :
      EveryAll P (ms.map fun m => m.row x.totalBytes (s.selected == some m.name)) ∧
        EveryAll P ((s.selected.bind x.module?).toList.map (·.detail x.totalBytes)) := by
    cases ms with
    | nil => cases hm
    | cons m₀ rest =>
      simp only [Snapshot.memoryView, hms, everyAll_append, everyAll_cons] at hmemory
      exact ⟨every_rows hmemory.1.2.1, hmemory.2⟩
  refine ⟨fun ms hms m hm => (everyAll_map ..).mp (hshown hms hm).1 m hm, fun m hm => ?_⟩
  obtain ⟨ms, hms, hmem⟩ := Snapshot.exists_of_module? hm
  exact (everyAll_map ..).mp (hshown hms hmem).2 m (Option.mem_toList.mpr hm)

/-- The rows of the findings that the filter leaves stand in the view. -/
theorem Slop.State.every_parts {s : State} {now : Time.Instant} (h : Every P (s.content now)) :
    ∀ part ∈ s.parts, Every P part.node := by
  refine forall_mem_parts.mpr fun x hx fs hfs f hf id hid => ?_
  have hview := Tab.LoadState.every_data hx h
  have hdata : x.hasAnyData = true := by simp [Snapshot.hasAnyData, hfs]
  simp only [Snapshot.view, hdata, if_true, everyAll_cons] at hview
  have hfindings := every_sectionBody hview.2.1
  cases fs with
  | nil => cases hf
  | cons f₀ rest =>
    cases hvisible : s.filter.visible (f₀ :: rest) with
    | nil => rw [hvisible] at hf; cases hf
    | cons f₁ shown =>
      rw [hvisible] at hf
      simp only [findingsTable, hfs, hvisible, everyAll_cons] at hfindings
      exact (everyAll_map ..).mp (every_rows hfindings.2.1) f hf

/-- The entries of the modules and the rows of the tools of the chosen one stand in the view. -/
theorem Tools.State.every_parts {s : State} (now : Time.Instant) (h : Every P (s.content now)) :
    ∀ part ∈ s.parts, Every P part.node := by
  refine forall_mem_parts.mpr fun x hx => ?_
  have hview := Tab.LoadState.every_data hx h
  simp only [Snapshot.view, everyAll_cons] at hview
  obtain ⟨hmodules, -⟩ := (everyAll_cons ..).mp (every_sectionBody hview.1)
  -- Items and tools stand in a view that has something to list.
  have hshown {ks : List Kit} {k : Kit} (hks : x.modules = some ks) (hk : k ∈ ks) :
      EveryAll P (ks.map fun k =>
        k.item ((x.active? s.selection.module).map (·.name) == some k.name)) ∧
      EveryAll P (((x.active? s.selection.module).map (·.view s.selection.tool)).getD []) := by
    cases ks with
    | nil => cases hk
    | cons k₀ rest =>
      simp only [Snapshot.modulesView, hks] at hmodules
      have hlayout := every_children hmodules
      simp only [everyAll_cons] at hlayout
      exact ⟨every_children hlayout.1, every_children hlayout.2.1⟩
  refine ⟨fun ks hks k hk => (everyAll_map ..).mp (hshown hks hk).1 k hk, fun k hk tool ht => ?_⟩
  obtain ⟨ks, hks, hmem⟩ := Snapshot.exists_of_active? hk
  have hne : ¬ k.tools.isEmpty = true := by simpa using List.ne_nil_of_mem ht
  have hkit := (hshown hks hmem).2
  rw [hk, Option.map_some, Option.getD_some, Kit.view, everyAll_append, if_neg hne,
    everyAll_cons] at hkit
  exact (everyAll_map ..).mp (every_plainRows hkit.2.1) tool ht

/-- The rows of the items stand in the view. -/
theorem Context.State.every_parts {s : State} (now : Time.Instant) (h : Every P (s.content now)) :
    ∀ part ∈ s.parts, Every P part.node := by
  refine forall_mem_parts.mpr fun x hx i hi => ?_
  have hview := Tab.LoadState.every_data hx h
  simp only [Snapshot.view, everyAll_cons] at hview
  obtain ⟨htable, -⟩ := (everyAll_cons ..).mp (every_plainSectionBody hview.2.1)
  rw [if_neg (by simpa using List.ne_nil_of_mem hi)] at htable
  exact (everyAll_map ..).mp (every_rows htable) i hi

namespace Tab

variable {t : Tab} {now : Time.Instant}

/-- What all elements of the view of a tab have, those of its parts have. -/
theorem every_parts (h : Every P (t.content now)) : ∀ part ∈ t.parts now, Every P part.node := by
  cases t with
  | cron s => exact Cron.State.every_parts h
  | stats s => exact Stats.State.every_parts h
  | slop s => exact Slop.State.every_parts h
  | tools s => exact Tools.State.every_parts now h
  | context s => exact Context.State.every_parts now h

/-- The elements of a part are elements of the view. -/
theorem parts_subset {part : Part} (h : part ∈ t.parts now) :
    part.node.elements ⊆ (t.content now).elements :=
  fun e he => every_parts (P := (· ∈ (t.content now).elements)) (fun _ he => he) part h e he

end Tab

end Dashboard
