import Dashboard.Proofs.TabTurns
/-!
# Tabs after any loads and commands

What a tab shows controls for can always be named: jobs, modules, tools and parts of the context
without a name are not taken from daemons, and a finding without an id is none that can be
dismissed.

* `Tab.Reached` — a tab after any loads and commands.
* `Tab.LoadState.Loaded` — a property of the snapshot, whatever became of the loads.
* `Tab.IsNamed` — what the tab shows controls for has a name, `Tab.Reached.isNamed` — always.
-/

namespace Dashboard

/-- A tab after any loads and commands. -/
inductive Tab.Reached : Tab → Prop
  | new (d : Daemon) (cap historyLimit : Nat) : Reached (.new d cap historyLimit)
  | begin {t : Tab} (ht : Reached t) : Reached t.begin.2
  | complete {t : Tab} (ht : Reached t) (ticket : Nat) (report : Tab.Report) :
    Reached (t.complete ticket report).2
  | react {t : Tab} (ht : Reached t) (c : Command) : Reached (t.react c).1

/-! ### Snapshots -/

namespace Tab.LoadState

variable {σ : Type} {P : σ → Prop} {s : LoadState σ}

/-- The snapshot has a property if there is one. -/
def Loaded (P : σ → Prop) (s : LoadState σ) : Prop := ∀ x, s.snapshot = some x → P x

theorem loaded_new (cap : Nat) : (new cap : LoadState σ).Loaded P := fun _ h => by cases h

theorem Loaded.begin (h : s.Loaded P) : s.begin.2.Loaded P := h

/-- If every report makes a snapshot with the property, the end of a load keeps it. -/
theorem Loaded.complete (h : s.Loaded P) {normalize : Report → σ} (hn : ∀ r, P (normalize r))
    (ticket : Nat) (report : Report) : (s.complete ticket report normalize).2.Loaded P := by
  intro x hx
  simp only [LoadState.complete, apply] at hx
  split at hx
  · split at hx
    · exact Option.some.inj hx ▸ hn report
    · exact h x hx
  · exact h x hx

end Tab.LoadState

theorem Json.wordOf?_ne_empty {x : Json} {names : Aliases} {s : String}
    (h : x.wordOf? names = some s) : s ≠ "" := by
  simpa using (Option.filter_eq_some_iff.mp h).2

/-- What is made of a value only if it has a name has a name. -/
theorem name_ne_empty {α : Type} {x : Json} {names : Aliases} {make : String → α} {a : α}
    (name : α → String) (hname : ∀ s, name (make s) = s)
    (h : (x.wordOf? names).map make = some a) : name a ≠ "" := by
  obtain ⟨s, hs, rfl⟩ := Option.map_eq_some_iff.mp h
  rw [hname]
  exact Json.wordOf?_ne_empty hs

/-! ### Names -/

/-- All jobs have a name. -/
def Cron.Snapshot.IsNamed (x : Snapshot) : Prop := ∀ j ∈ x.jobs, j.name ≠ ""

/-- No report brings a job without a name. -/
theorem Cron.Snapshot.isNamed_ofReport (r : Tab.Report) : (ofReport r).IsNamed := by
  intro j hj
  cases hd : r.data? jobsMethod with
  | none => simp [ofReport, hd] at hj
  | some x =>
    simp only [ofReport, hd, Option.map_some, Option.getD_some, jobsOf, List.mem_filterMap] at hj
    obtain ⟨y, -, hy⟩ := hj
    exact name_ne_empty Job.name (fun _ => rfl) hy

/-- All modules have a name. -/
def Stats.Snapshot.IsNamed (x : Snapshot) : Prop :=
  ∀ ms, x.modules = some ms → ∀ m ∈ ms, m.name ≠ ""

/-- No report brings a module without a name. -/
theorem Stats.Snapshot.isNamed_ofReport (r : Tab.Report) : (ofReport r).IsNamed := by
  intro ms hms m hm
  obtain ⟨x, -, rfl⟩ := Option.map_eq_some_iff.mp hms
  rw [modulesOf, List.mem_mergeSort, List.mem_filterMap] at hm
  obtain ⟨y, -, hy⟩ := hm
  exact name_ne_empty Store.name (fun _ => rfl) hy

/-- All findings that have an id have one that is not empty. -/
def Slop.Snapshot.IsNamed (x : Snapshot) : Prop :=
  ∀ fs, x.findings = some fs → ∀ f ∈ fs, ∀ id, f.id = some id → id ≠ ""

/-- No report brings a finding with an empty id. -/
theorem Slop.Snapshot.isNamed_ofReport (r : Tab.Report) : (ofReport r).IsNamed := by
  intro fs hfs f hf id hid
  obtain ⟨x, -, rfl⟩ := Option.map_eq_some_iff.mp hfs
  rw [findingsOf, List.mem_mergeSort, List.mem_map] at hf
  obtain ⟨y, -, rfl⟩ := hf
  exact Json.wordOf?_ne_empty hid

/-- All modules and all tools have a name. -/
def Tools.Snapshot.IsNamed (x : Snapshot) : Prop :=
  ∀ ks, x.modules = some ks → ∀ k ∈ ks, k.name ≠ "" ∧ ∀ t ∈ k.tools, t.name ≠ ""

/-- No report brings a module or a tool without a name. -/
theorem Tools.Snapshot.isNamed_ofReport (r : Tab.Report) : (ofReport r).IsNamed := by
  intro ks hks k hk
  obtain ⟨x, -, rfl⟩ := Option.map_eq_some_iff.mp hks
  rw [modulesOf, List.mem_filterMap] at hk
  obtain ⟨y, -, hy⟩ := hk
  refine ⟨name_ne_empty Kit.name (fun _ => rfl) hy, fun t ht => ?_⟩
  obtain ⟨name, -, rfl⟩ := Option.map_eq_some_iff.mp hy
  rw [List.mem_filterMap] at ht
  obtain ⟨z, -, hz⟩ := ht
  exact name_ne_empty Tool.name (fun _ => rfl) hz

/-- All parts of the context have an id. -/
def Context.Snapshot.IsNamed (x : Snapshot) : Prop := ∀ i ∈ x.items, i.id ≠ ""

/-- No report brings a part of the context without an id. -/
theorem Context.Snapshot.isNamed_ofReport (r : Tab.Report) : (ofReport r).IsNamed := by
  intro i hi
  cases hd : r.data? contextMethod with
  | none => simp [ofReport, hd] at hi
  | some x =>
    simp only [ofReport, hd, Option.map_some, Option.getD_some, ofJson, itemsOf, List.mem_mergeSort,
      List.mem_filterMap] at hi
    obtain ⟨y, -, hy⟩ := hi
    exact name_ne_empty Item.id (fun _ => rfl) hy

/-! ### Tabs -/

/-- What the tab shows controls for has a name, and the job tab asks for no more past runs than can
    be asked for. -/
def Tab.IsNamed : Tab → Prop
  | cron s => s.load.Loaded Cron.Snapshot.IsNamed ∧ s.historyLimit ≤ Cron.maxHistoryLimit
  | stats s => s.load.Loaded Stats.Snapshot.IsNamed
  | slop s => s.load.Loaded Slop.Snapshot.IsNamed
  | tools s => s.load.Loaded Tools.Snapshot.IsNamed
  | context s => s.load.Loaded Context.Snapshot.IsNamed

/-- A limit is cut to the most that can be asked for. -/
theorem Cron.clampLimit_le (n : Nat) : clampLimit n ≤ maxHistoryLimit := by
  simp only [clampLimit, maxHistoryLimit]
  omega

namespace Tab

variable {t : Tab}

/-- A new tab shows no controls, and its limit is cut. -/
theorem isNamed_new (d : Daemon) (cap historyLimit : Nat) : (new d cap historyLimit).IsNamed := by
  cases d with
  | cron => exact ⟨LoadState.loaded_new cap, Cron.clampLimit_le historyLimit⟩
  | stats | slop | tools | context => exact LoadState.loaded_new cap

/-- A load that begins changes nothing that controls name. -/
theorem IsNamed.begin (h : t.IsNamed) : t.begin.2.IsNamed := by
  cases t with
  | cron s => exact ⟨h.1.begin, h.2⟩
  | stats s | slop s | tools s | context s => exact LoadState.Loaded.begin h

/-- A load that ends brings named things only. -/
theorem IsNamed.complete (h : t.IsNamed) (ticket : Nat) (report : Report) :
    (t.complete ticket report).2.IsNamed := by
  cases t with
  | cron s => exact ⟨h.1.complete Cron.Snapshot.isNamed_ofReport ticket report, h.2⟩
  | stats s => exact LoadState.Loaded.complete h Stats.Snapshot.isNamed_ofReport ticket report
  | slop s => exact LoadState.Loaded.complete h Slop.Snapshot.isNamed_ofReport ticket report
  | tools s => exact LoadState.Loaded.complete h Tools.Snapshot.isNamed_ofReport ticket report
  | context s => exact LoadState.Loaded.complete h Context.Snapshot.isNamed_ofReport ticket report

/-- A command leaves the snapshot, and a limit that it asks for is cut. -/
theorem IsNamed.react (h : t.IsNamed) (c : Command) : (t.react c).1.IsNamed := by
  -- No command touches the snapshot, and one alone touches the limit.
  cases t with
  | cron s =>
    simp only [Tab.react, Cron.State.react]
    cases Cron.Verb.ofWord? c.name with
    | none => exact h
    | some v =>
      cases v with
      | setHistoryLimit =>
        cases c.count? "limit" with
        | none => exact h
        | some n => exact ⟨h.1, Cron.clampLimit_le n⟩
      | _ => exact h
  | stats s =>
    simp only [Tab.react, Stats.State.react]
    cases Stats.Verb.ofWord? c.name with
    | none => exact h
    | some v => cases v <;> exact h
  | slop s =>
    simp only [Tab.react, Slop.State.react]
    cases Slop.Verb.ofWord? c.name with
    | none => exact h
    | some v => cases v <;> exact h
  | tools s =>
    simp only [Tab.react, Tools.State.react]
    cases Tools.Verb.ofWord? c.name with
    | none => exact h
    | some v => cases v <;> exact h
  | context s =>
    simp only [Tab.react, Context.State.react]
    cases Context.Verb.ofWord? c.name with
    | none => exact h
    | some v => cases v <;> exact h

/-- Whatever was loaded and done, what the tab shows controls for has a name. -/
theorem Reached.isNamed (h : t.Reached) : t.IsNamed := by
  induction h with
  | new d cap historyLimit => exact isNamed_new d cap historyLimit
  | begin _ ih => exact ih.begin
  | complete _ ticket report ih => exact ih.complete ticket report
  | react _ c ih => exact ih.react c

end Tab

end Dashboard
