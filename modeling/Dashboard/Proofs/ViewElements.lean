import Dashboard.Markup.Element
import Dashboard.Tab.Part
/-!
# The elements of the views

What is true of every element that does nothing and of every control of a tab is true of every
element of the tab's view, whatever the tab has loaded.

* `Element.isInert` — the elements that do nothing.
* `every_emptyState`, `every_statGrid`, `every_table` and others — the fragments of views.
* `LoadState.every_content` — the view of a tab as a whole.
* `Cron.Controls`, `Stats.Controls`, `Slop.Controls`, `Tools.Controls`, `Context.Controls` — a
  property of the controls and the parts of a view; `every_content` of each — it holds of the whole
  view.
* `Cron.every_row`, `Stats.every_row`, `Stats.every_detail` and others — a property of a part.
-/

namespace Dashboard

namespace Markup

/-- The attributes of elements that do nothing. -/
def Attribute.isInert : Attribute → Bool
  | plain .classes _ | plain .style _ | plain .title _ | plain .value _ | plain .tabId _ => true
  | flag .selected => true
  | _ => false

/-- The elements that stand in views, apart from their parts. -/
def Tag.isPlain : Tag → Bool
  | html | head | metadata | title | body | nav | part => false
  | _ => true

/-- An element of a view that does nothing. Parts of a view have one class and nothing else. -/
def Element.isInert {ρ : Type} (e : Element ρ) : Bool :=
  e.tag.isPlain && e.attributes.all (·.isInert) ||
    e.tag == .part && e.attributes == [.plain .classes "panel-section"]

open Node

/-! ### Fragments -/

section

variable {ρ : Type} {P : Element ρ → Prop} (hp : ∀ e : Element ρ, e.isInert = true → P e)

include hp

/-- An element without action adds nothing to what is to be shown of its children. -/
theorem every_inert {tag : Tag} {as : List Attribute} (ns : List (Node ρ))
    (ht : tag.isPlain = true) (ha : as.all (·.isInert) = true) :
    Every P (element tag as ns) ↔ EveryAll P ns := by
  rw [every_element]
  exact and_iff_right (hp _ (by simp only [Element.isInert, ht, ha]; rfl))

theorem every_classed {tag : Tag} (classes : String) (ns : List (Node ρ))
    (ht : tag.isPlain = true) : Every P (classed tag classes ns) ↔ EveryAll P ns :=
  every_inert hp ns ht rfl

theorem every_bare {tag : Tag} (ns : List (Node ρ)) (ht : tag.isPlain = true) :
    Every P (bare tag ns) ↔ EveryAll P ns :=
  every_inert hp ns ht rfl

theorem every_labelled {tag : Tag} (s : String) (ht : tag.isPlain = true) :
    Every P (labelled tag s) ↔ True :=
  (every_inert hp _ ht rfl).trans (by simp)

/-- A section of a panel is no more than its children. -/
theorem every_part (ns : List (Node ρ)) :
    Every P (classed .part "panel-section" ns) ↔ EveryAll P ns := by
  rw [classed, every_element]
  exact and_iff_right (hp _ rfl)

theorem every_icon (name : String) : Every P (icon name) ↔ True := by
  simp (disch := decide) [icon, every_classed hp]

/-- The view of an empty list has nothing that could be touched. -/
theorem every_emptyState (iconName message : String) :
    Every P (emptyState iconName message) ↔ True := by
  simp (disch := decide) [emptyState, every_classed hp, every_icon hp, every_labelled hp]

theorem every_remark (message : String) : Every P (remark message) ↔ True := by
  simp (disch := decide) [remark, every_classed hp]

theorem every_panelSection (title : String) (ns : List (Node ρ)) :
    Every P (panelSection title ns) ↔ EveryAll P ns := by
  simp (disch := decide) [panelSection, every_part hp, every_labelled hp]

/-- Of a section with actions both the actions and the body are to be looked at. -/
theorem every_panelSectionWith (title : String) (actions ns : List (Node ρ)) :
    Every P (panelSectionWith title actions ns) ↔ EveryAll P actions ∧ EveryAll P ns := by
  simp (disch := decide) [panelSectionWith, every_part hp, every_classed hp, every_labelled hp]

theorem every_statGrid (items : List (String × String)) : Every P (statGrid items) ↔ True := by
  simp (disch := decide) [statGrid, every_classed hp]

/-- The head of a table has nothing that could be touched. -/
theorem every_tableHead (titles : List String) : Every P (tableHead titles : Node ρ) ↔ True := by
  simp (disch := decide) only [tableHead, every_bare hp, everyAll_cons, everyAll_nil, everyAll_map,
    and_true, iff_true]
  intro t _
  split <;> simp

theorem every_tableRow (cells : List (List (Node ρ))) :
    Every P (tableRow cells) ↔ ∀ c ∈ cells, EveryAll P c := by
  simp (disch := decide) [tableRow, every_bare hp]

/-- A table with a head is no more than its rows. -/
theorem every_table (classes : String) (titles : List String) (rows : List (Node ρ)) :
    Every P (table classes titles rows) ↔ EveryAll P rows := by
  simp (disch := decide) [table, every_classed hp, every_bare hp, every_tableHead hp]

theorem every_plainTable (classes : String) (rows : List (Node ρ)) :
    Every P (plainTable classes rows) ↔ EveryAll P rows := by
  simp (disch := decide) [plainTable, every_classed hp, every_bare hp]

theorem every_badge (b : Option Badge) : EveryAll P (badge b) ↔ True := by
  cases b <;> simp (disch := decide) [badge, every_classed hp]

/-- The options of a choice do nothing; the choice itself does. -/
theorem every_choice (action : String) (options : List (String × String)) (chosen : String) :
    Every P (choice action options chosen) ↔
      P ⟨.select, [.plain .action action], options.map fun o =>
        element .option (.plain .value o.1 :: Attribute.flagIf (o.1 == chosen) .selected)
          [text o.2]⟩ := by
  rw [choice, every_element, everyAll_map]
  refine and_iff_left fun o _ => ?_
  rw [every_inert hp _ rfl]
  · simp
  · cases o.1 == chosen <;> rfl

theorem every_staleBanner (message : String) : Every P (staleBanner message) ↔ True := by
  simp (disch := decide) [staleBanner, every_classed hp, every_icon hp]

theorem every_loadingView (what : String) : Every P (loadingView what) ↔ True := by
  simp (disch := decide) [loadingView, every_classed hp, every_labelled hp]

end

/-- The button that tries again. -/
def retryButton (action : String) : Node Empty :=
  element .button [.plain .classes "retry-button", .plain .action action] [text "Retry"]

end Markup

open Markup Markup.Node

variable {P : Element Empty → Prop} (hp : ∀ e : Element Empty, e.isInert = true → P e)

include hp

/-! ### The view of a tab as a whole -/

/-- Of the view of a tab there are the button for another attempt and the data to be looked at. -/
theorem Tab.LoadState.every_content {σ : Type} (s : LoadState σ) (p : Presentation σ)
    (hretry : Every P (retryButton p.retry))
    (hdata : ∀ x, s.snapshot = some x → EveryAll P (p.data x)) : Every P (s.content p) := by
  rw [content, tabContent, every_inert hp _ rfl rfl]
  obtain ⟨snapshot, lastError, attempts, issued, phase⟩ := s
  cases snapshot with
  | some x =>
    simp only [branch, everyAll_append, everyAll_map, every_staleBanner hp, implies_true, true_and]
    exact hdata x rfl
  | none =>
    cases lastError with
    | none => simp [branch, every_loadingView hp]
    | some reason =>
      simp (disch := decide) only [branch, errorView, every_classed hp, every_icon hp,
        everyAll_cons, everyAll_nil, every_text, true_and, and_true]
      exact hretry

/-! ### The job tab -/

omit hp in
/-- The controls of the tab have a property, and so have those of its parts. -/
structure Cron.Controls (P : Element Empty → Prop) (s : State) (now : Time.Instant) : Prop where
  retry : Every P (retryButton Verb.retry.word)
  refresh : Every P (actionButton "Refresh" Verb.refresh.word [])
  limit : Every P (limitChoice s.historyLimit)
  scheduler : ∀ on, Every P (toggle Verb.toggleScheduler.word on [])
  parts : ∀ part ∈ s.parts now, Every P part.node

namespace Cron

theorem every_statusMark (classes word : String) : Every P (statusMark classes word) ↔ True := by
  simp (disch := decide) [statusMark, every_classed hp]

/-- The state of a job has nothing that could be touched. -/
theorem every_status (j : Job) : Every P j.status ↔ True := by
  simp only [Job.status]
  split
  · simp [every_statusMark hp]
  · split <;> simp [every_statusMark hp]

/-- The result of a run has nothing that could be touched. -/
theorem every_result (r : Run) : Every P r.result ↔ True := by
  simp only [Run.result]
  split
  · simp [every_statusMark hp]
  · rw [every_inert hp _ rfl rfl]
    simp

/-- The row of a job has two controls: the switch and the button that runs the job. -/
theorem every_row (j : Job) (now : Time.Instant)
    (ht : Every P (toggle Verb.toggleJob.word j.enabled [("name", j.name)]))
    (hr : Every P (actionButton "Run now" Verb.runNow.word [("name", j.name)])) :
    Every P (j.row now) := by
  simp (disch := decide) [Job.row, every_tableRow hp, every_classed hp, every_labelled hp,
    every_status hp, ht, hr]

theorem every_runRow (r : Run) (now : Time.Instant) : Every P (r.row now) ↔ True := by
  simp [Run.row, every_tableRow hp, every_result hp]

/-- The switch of the scheduler stands there if a state was reported. -/
theorem every_schedulerSwitch (enabled : Option Bool)
    (ht : ∀ on, Every P (toggle Verb.toggleScheduler.word on [])) :
    Every P (schedulerSwitch enabled) := by
  cases enabled with
  | none => simp (disch := decide) [schedulerSwitch, every_classed hp]
  | some on => simp (disch := decide) [schedulerSwitch, every_classed hp, ht on]

/-- The list of the jobs is no more than their rows. -/
theorem every_jobs (jobs : List Job) (now : Time.Instant) (hj : ∀ j ∈ jobs, Every P (j.row now)) :
    Every P
      (if jobs.isEmpty then emptyState "watch" "No scheduled jobs"
      else
        table "cron-jobs" ["", "Job", "Schedule", "Status", "Last run", "Next run", ""]
          (jobs.map (·.row now))) := by
  split
  · simp [every_emptyState hp]
  · simpa [every_table hp] using hj

/-- The list of the runs has nothing that could be touched. -/
theorem every_history (runs : List Run) (now : Time.Instant) :
    Every P
      (if runs.isEmpty then emptyState "history" "No runs recorded yet"
      else
        table "cron-history" ["Job", "Started", "Duration", "Result"] (runs.map (·.row now))) := by
  split
  · simp [every_emptyState hp]
  · simp [every_table hp, every_runRow hp]

/-- The view of the cron tab has the property if its controls have it. -/
theorem every_content (s : State) (now : Time.Instant) (hc : Controls P s now) :
    Every P (s.content now) := by
  refine s.load.every_content hp _ hc.retry fun x hx => ?_
  have hscheduler := every_schedulerSwitch hp x.scheduler hc.scheduler
  have hjobs := every_jobs hp x.jobs now (State.forall_mem_parts.mp hc.parts x hx)
  simp only [Snapshot.view, everyAll_cons, everyAll_nil, every_panelSectionWith hp, hscheduler,
    hc.refresh, hc.limit, hjobs, every_history hp, and_true]

end Cron

/-! ### The usage tab -/

omit hp in
/-- The controls of the tab have a property, and so have those of its parts. -/
structure Stats.Controls (P : Element Empty → Prop) (s : State) : Prop where
  retry : Every P (retryButton Verb.retry.word)
  refresh : Every P (actionButton "Refresh" Verb.refresh.word [])
  parts : ∀ part ∈ s.parts, Every P part.node

namespace Stats

/-- A bar has nothing that could be touched. -/
theorem every_bar (classes : String) (percent : Nat) : Every P (bar classes percent) ↔ True := by
  rw [bar, every_classed hp _ _ rfl, everyAll_cons, every_inert hp _ rfl rfl]
  simp

theorem every_usage (u : Usage) (now : Time.Instant) : EveryAll P (u.view now) ↔ True := by
  simp [Usage.view, every_statGrid hp, every_remark hp]

/-- The row of a module is a control itself. -/
theorem every_row (m : Store) (total : Nat) (selected : Bool)
    (hs : ∀ classes children, P ⟨.tr, [.plain .classes classes,
      .plain .action Verb.selectModule.word, .data "module" m.name], children⟩) :
    Every P (m.row total selected) := by
  refine (every_element ..).mpr ⟨hs _ _, ?_⟩
  simp (disch := decide) [every_bare hp, every_bar hp]

/-- The details of a module have one control, by which the module is cleared. -/
theorem every_detail (m : Store) (total : Nat)
    (hc : Every P (actionButton "Clear module" Verb.clearModule.word [("module", m.name)])) :
    Every P (m.detail total) := by
  simp (disch := decide) [Store.detail, every_classed hp, every_labelled hp, hc]

/-- The view of the stats tab has the property if its controls have it. -/
theorem every_content (s : State) (now : Time.Instant) (hc : Controls P s) :
    Every P (s.content now) := by
  refine s.load.every_content hp _ hc.retry fun x hx => ?_
  obtain ⟨hrows, hdetail⟩ := State.forall_mem_parts.mp hc.parts x hx
  have hmemory : EveryAll P (x.memoryView s.selected) := by
    simp only [Snapshot.memoryView]
    split
    · simp [every_emptyState hp]
    · simp [every_emptyState hp]
    · next ms hms =>
      simp (disch := decide) only [everyAll_append, everyAll_cons, everyAll_nil, everyAll_map,
        every_remark hp, every_table hp, true_and, and_true]
      exact ⟨hrows _ hms, fun m hm => hdetail m (Option.mem_toList.mp hm)⟩
  simp only [Snapshot.view, everyAll_cons, everyAll_nil, every_panelSectionWith hp,
    every_panelSection hp, hc.refresh, hmemory, and_true, true_and]
  split
  · simp [every_usage hp]
  · simp [every_emptyState hp]

end Stats

/-! ### The findings tab -/

omit hp in
/-- The controls of the tab have a property, and so have those of its parts. -/
structure Slop.Controls (P : Element Empty → Prop) (s : State) : Prop where
  retry : Every P (retryButton Verb.retry.word)
  refresh : Every P (actionButton "Refresh" Verb.refresh.word [])
  scanNow : Every P (actionButton "Scan now" Verb.scanNow.word [])
  loop : ∀ on, Every P (toggle Verb.toggleLoop.word on [])
  search : Every P (searchField s.filter.query)
  severity : Every P (severityChoice s.filter.severity)
  parts : ∀ part ∈ s.parts, Every P part.node

namespace Slop

/-- The row of a finding with an id has a button by which it is dismissed. -/
theorem every_row (f : Finding)
    (hd : ∀ id, f.id = some id →
      Every P (actionButton "Dismiss" Verb.dismiss.word [("id", id)])) : Every P f.row := by
  simp (disch := decide) [Finding.row, every_tableRow hp, every_classed hp, every_labelled hp]
  exact hd

/-- The list of the findings is no more than the rows of those that the filter leaves. -/
theorem every_findings (filter : Filter) (findings : Option (List Finding))
    (hd : ∀ fs, findings = some fs → ∀ f ∈ filter.visible fs, Every P f.row) :
    EveryAll P (findingsTable filter findings) := by
  simp only [findingsTable]
  split
  · simp [every_emptyState hp]
  · simp [every_emptyState hp]
  · next fs _ =>
    split
    · simp [every_emptyState hp]
    · simp only [everyAll_cons, everyAll_nil, every_remark hp, every_table hp, everyAll_map,
        true_and, and_true]
      exact hd fs rfl

/-- The section on the loop has a switch and two buttons. -/
theorem every_loopSection (status : Option LoopStatus) (now : Time.Instant)
    (hl : ∀ on, Every P (toggle Verb.toggleLoop.word on []))
    (hs : Every P (actionButton "Scan now" Verb.scanNow.word []))
    (hr : Every P (actionButton "Refresh" Verb.refresh.word [])) :
    Every P (loopSection status now) := by
  simp (disch := decide) only [loopSection, every_panelSectionWith hp, every_bare hp, hl, hs, hr,
    every_statGrid hp, everyAll_cons, everyAll_nil, everyAll_map, every_text, implies_true,
    true_and, and_true]
  split
  · simp [every_statGrid hp]
  · simp [every_emptyState hp]

/-- The view of the slop tab has the property if its controls have it. -/
theorem every_content (s : State) (now : Time.Instant) (hc : Controls P s) :
    Every P (s.content now) := by
  refine s.load.every_content hp _ hc.retry fun x hx => ?_
  have hloop := every_loopSection hp x.status now hc.loop hc.scanNow hc.refresh
  have hfindings : Every P (findingsSection x.findings s.filter) := by
    simp only [findingsSection, every_panelSectionWith hp, everyAll_cons, everyAll_nil, hc.search,
      hc.severity, true_and, and_true]
    refine every_findings hp _ _ fun fs hfs f hf => ?_
    cases hid : f.id with
    | none => exact every_row hp f fun id h => by cases hid.symm.trans h
    | some id => exact State.forall_mem_parts.mp hc.parts x hx fs hfs f hf id hid
  simp only [Snapshot.view]
  split
  · simp [hloop, hfindings]
  · simp [every_emptyState hp]

end Slop

/-! ### The tools tab -/

omit hp in
/-- The controls of the tab have a property, and so have those of its parts. -/
structure Tools.Controls (P : Element Empty → Prop) (s : State) : Prop where
  retry : Every P (retryButton Verb.retry.word)
  refresh : Every P (actionButton "Refresh" Verb.refresh.word [])
  parts : ∀ part ∈ s.parts, Every P part.node

namespace Tools

/-- The entry of a module is a control itself. -/
theorem every_item (k : Kit) (selected : Bool)
    (hs : ∀ classes children, P ⟨.li, [.plain .classes classes,
      .plain .action Verb.selectModule.word, .data "module" k.name], children⟩) :
    Every P (k.item selected) := by
  refine (every_element ..).mpr ⟨hs _ _, ?_⟩
  simp (disch := decide) [every_classed hp]

theorem every_row (t : Tool) (module : String) (selected : Bool)
    (he : Every P (toggle Verb.toggleTool.word t.enabled [("module", module), ("tool", t.name)]))
    (hs : ∀ children,
      P ⟨.td, [.plain .action Verb.selectTool.word, .data "tool" t.name], children⟩) :
    Every P (t.row module selected) := by
  simp (disch := decide) [Tool.row, every_classed hp, every_bare hp, he, hs]

/-- The view of a module is no more than the rows of its tools. -/
theorem every_kit (k : Kit) (selected : Option String)
    (hr : ∀ t ∈ k.tools, Every P (t.row k.name (selected == some t.name))) :
    EveryAll P (k.view selected) := by
  rw [Kit.view, everyAll_append]
  constructor
  · split <;> simp [every_remark hp]
  · split
    · simp [every_emptyState hp]
    · simp (disch := decide) only [everyAll_cons, everyAll_map, every_plainTable hp, Tool.detail,
        every_classed hp, every_labelled hp, everyAll_nil, implies_true, and_true]
      exact hr

/-- The settings have nothing that could be touched. -/
theorem every_settings (entries : Option (List (String × String))) :
    Every P (settingsView entries) := by
  simp only [settingsView]
  split
  · simp [every_emptyState hp]
  · simp [every_emptyState hp]
  · simp (disch := decide) [every_plainTable hp, every_tableRow hp, every_labelled hp]

/-- The view of the tools tab has the property if its controls have it. -/
theorem every_content (s : State) (now : Time.Instant) (hc : Controls P s) :
    Every P (s.content now) := by
  refine s.load.every_content hp _ hc.retry fun x hx => ?_
  obtain ⟨hitems, hrows⟩ := State.forall_mem_parts.mp hc.parts x hx
  have hmodules : Every P (x.modulesView s.selection) := by
    simp only [Snapshot.modulesView]
    split
    · simp [every_emptyState hp]
    · simp [every_emptyState hp]
    · next ks hks =>
      simp (disch := decide) only [every_classed hp, everyAll_cons, everyAll_nil, everyAll_map,
        and_true]
      refine ⟨hitems _ hks, ?_⟩
      cases ha : x.active? s.selection.module with
      | none => simp
      | some k => exact every_kit hp k _ (hrows k ha)
  simp [Snapshot.view, every_panelSectionWith hp, every_panelSection hp, hc.refresh, hmodules,
    every_settings hp]

end Tools

/-! ### The context tab -/

omit hp in
/-- The controls of the tab have a property, and so have those of its parts. -/
structure Context.Controls (P : Element Empty → Prop) (s : State) : Prop where
  retry : Every P (retryButton Verb.retry.word)
  refresh : Every P (actionButton "Refresh" Verb.refresh.word [])
  clear : Every P (actionButton "Clear" Verb.clear.word [])
  parts : ∀ part ∈ s.parts, Every P part.node

namespace Context

/-- The bar of the tokens in use has nothing that could be touched. -/
theorem every_usageBar (percent : Nat) : EveryAll P (usageBar percent) := by
  simp only [usageBar, everyAll_cons, everyAll_nil, every_remark hp, and_true]
  rw [every_classed hp _ _ rfl, everyAll_cons, every_inert hp _ rfl rfl]
  simp

/-- The row of an item has one control, by which the item is pinned. -/
theorem every_row (i : Item) (hpin : Every P (toggle Verb.pin.word i.pinned [("id", i.id)])) :
    Every P i.row := by
  simp (disch := decide) [Item.row, every_tableRow hp, every_classed hp, hpin]

/-- The view of the context tab has the property if its controls have it. -/
theorem every_content (s : State) (now : Time.Instant) (hc : Controls P s) :
    Every P (s.content now) := by
  refine s.load.every_content hp _ hc.retry fun x hx => ?_
  have hrow : ∀ i ∈ x.items, Every P i.row := State.forall_mem_parts.mp hc.parts x hx
  simp only [Snapshot.view, everyAll_cons, everyAll_nil, every_panelSectionWith hp,
    every_panelSection hp, hc.refresh, hc.clear, every_statGrid hp, true_and, and_true]
  constructor
  · cases x.usagePercent? with
    | none => simp
    | some percent => exact every_usageBar hp percent
  · split
    · simp [every_emptyState hp]
    · simpa [every_table hp] using hrow

end Context

end Dashboard
