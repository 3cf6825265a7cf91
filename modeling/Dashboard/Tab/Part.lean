import Dashboard.Tab
/-!
# What the parts of a view are about

Some parts of a view are made for one thing each: the row of a job, of a finding or of a part of the
context, the row and the details of a module of the memory store, the entry of a module of tools and
the row of a tool.

* `Tab.Subject` — what a part is about, `Tab.Subject.names` — how a mutation names it.
* `Tab.parts` — the parts of a view with what they are about.
-/

namespace Dashboard

open Markup

/-- What a part of a view is about. -/
inductive Tab.Subject where
  | job (name : String)
  | store (name : String)
  | finding (id : String)
  | kit (name : String)
  | tool (owner name : String)
  | item (id : String)
  deriving DecidableEq, Repr

/-- The texts in the parameters of a mutation that name the thing. -/
def Tab.Subject.names : Subject → List (String × String)
  | job name => [("name", name)]
  | store name => [("module", name)]
  | finding id => [("id", id)]
  | kit name => [("module", name)]
  | tool owner name => [("module", owner), ("tool", name)]
  | item id => [("id", id)]

/-- A part of a view. -/
structure Tab.Part where
  subject : Subject
  node : Node Empty

/-- The rows of jobs. -/
def Cron.State.parts (s : State) (now : Time.Instant) : List Tab.Part :=
  (s.load.snapshot.toList.flatMap (·.jobs)).map fun j => ⟨.job j.name, j.row now⟩

theorem Cron.State.forall_mem_parts {s : State} {now : Time.Instant} {Q : Tab.Part → Prop} :
    (∀ part ∈ s.parts now, Q part) ↔
      ∀ x, s.load.snapshot = some x → ∀ j ∈ x.jobs, Q ⟨.job j.name, j.row now⟩ := by
  cases h : s.load.snapshot <;> simp [parts, h]

/-- The rows of modules and the details of the one selected. -/
def Stats.State.parts (s : State) : List Tab.Part :=
  s.load.snapshot.toList.flatMap fun x =>
    ((x.modules.getD []).map fun m =>
      ⟨.store m.name, m.row x.totalBytes (s.selected == some m.name)⟩) ++
    (s.selected.bind x.module?).toList.map fun m => ⟨.store m.name, m.detail x.totalBytes⟩

/-- The parts of the usage tab are its modules and what is shown of the selected one. -/
theorem Stats.State.forall_mem_parts {s : State} {Q : Tab.Part → Prop} :
    (∀ part ∈ s.parts, Q part) ↔
      ∀ x, s.load.snapshot = some x →
        (∀ ms, x.modules = some ms → ∀ m ∈ ms,
          Q ⟨.store m.name, m.row x.totalBytes (s.selected == some m.name)⟩) ∧
        ∀ m, s.selected.bind x.module? = some m → Q ⟨.store m.name, m.detail x.totalBytes⟩ := by
  cases h : s.load.snapshot with
  | none => simp [parts, h]
  | some x =>
    simp only [parts, h, Option.toList_some, List.flatMap_singleton, List.forall_mem_append,
      List.forall_mem_map, Option.mem_toList, Option.some.injEq, forall_eq']
    cases x.modules <;> simp

/-- The rows of the findings that are shown and have an id. -/
def Slop.State.parts (s : State) : List Tab.Part :=
  (s.filter.visible (s.load.snapshot.toList.flatMap fun x => x.findings.getD [])).filterMap fun f =>
    f.id.map fun id => ⟨.finding id, f.row⟩

/-- The parts of the findings tab are the findings that pass the filter and have an id. -/
theorem Slop.State.forall_mem_parts {s : State} {Q : Tab.Part → Prop} :
    (∀ part ∈ s.parts, Q part) ↔
      ∀ x, s.load.snapshot = some x → ∀ fs, x.findings = some fs → ∀ f ∈ s.filter.visible fs,
        ∀ id, f.id = some id → Q ⟨.finding id, f.row⟩ := by
  cases h : s.load.snapshot with
  | none => simp [parts, h, Filter.visible]
  | some x =>
    simp only [parts, h, Option.toList_some, List.flatMap_singleton, List.mem_filterMap,
      Option.map_eq_some_iff, Option.some.injEq, forall_eq', forall_exists_index, and_imp]
    cases x.findings with
    | none => simp [Filter.visible]
    | some fs =>
      simp only [Option.getD_some, Option.some.injEq, forall_eq']
      constructor
      · exact fun hq f hf id hid => hq _ f hf id hid rfl
      · rintro hq _ f hf id hid rfl
        exact hq f hf id hid

/-- The entries of modules and the rows of the tools of the one shown. -/
def Tools.State.parts (s : State) : List Tab.Part :=
  s.load.snapshot.toList.flatMap fun x =>
    let active := x.active? s.selection.module
    ((x.modules.getD []).map fun k =>
      ⟨.kit k.name, k.item (active.map (·.name) == some k.name)⟩) ++
    active.toList.flatMap fun k =>
      k.tools.map fun t => ⟨.tool k.name t.name, t.row k.name (s.selection.tool == some t.name)⟩

/-- The parts of the tools tab are its modules and the tools of the one shown. -/
theorem Tools.State.forall_mem_parts {s : State} {Q : Tab.Part → Prop} :
    (∀ part ∈ s.parts, Q part) ↔
      ∀ x, s.load.snapshot = some x →
        (∀ ks, x.modules = some ks → ∀ k ∈ ks,
          Q ⟨.kit k.name, k.item ((x.active? s.selection.module).map (·.name) == some k.name)⟩) ∧
        ∀ k, x.active? s.selection.module = some k → ∀ t ∈ k.tools,
          Q ⟨.tool k.name t.name, t.row k.name (s.selection.tool == some t.name)⟩ := by
  cases h : s.load.snapshot with
  | none => simp [parts, h]
  | some x =>
    simp only [parts, h, Option.toList_some, List.flatMap_singleton, List.forall_mem_append,
      List.forall_mem_map, List.forall_mem_flatMap, Option.mem_toList, Option.some.injEq,
      forall_eq']
    cases x.modules <;> simp

/-- The rows of parts of the context. -/
def Context.State.parts (s : State) : List Tab.Part :=
  (s.load.snapshot.toList.flatMap (·.items)).map fun i => ⟨.item i.id, i.row⟩

theorem Context.State.forall_mem_parts {s : State} {Q : Tab.Part → Prop} :
    (∀ part ∈ s.parts, Q part) ↔
      ∀ x, s.load.snapshot = some x → ∀ i ∈ x.items, Q ⟨.item i.id, i.row⟩ := by
  cases h : s.load.snapshot <;> simp [parts, h]

/-- The parts of the view of a tab. -/
def Tab.parts (t : Tab) (now : Time.Instant) : List Part :=
  match t with
  | cron s => s.parts now
  | stats s => s.parts
  | slop s => s.parts
  | tools s => s.parts
  | context s => s.parts

/-- The texts in the parameters of a mutation. -/
def Tab.Mutation.names (m : Mutation) : List (String × String) :=
  ((m.params.bind Json.members?).getD []).filterMap fun p => p.2.string?.map (p.1, ·)

end Dashboard
