import Dashboard.Proofs.ControlEvents
import Dashboard.Proofs.NumberText
import Dashboard.Proofs.ReachedTabs
import Dashboard.Proofs.ViewParts
/-!
# The controls of a view do what they are there for

Views, scripts and commands are written down apart from each other. Whatever a tab has loaded and
whatever commands it has seen, they agree: every element that does something is served by its tab,
and a mutation that comes of it names what the element was made for.

* `Cron.heeds_toggleJob`, `Stats.heeds_clearModule` and others — what a command asks for.
* `Tab.IsNamed.connects_parts` — the parts of a view are connected and name what they are about.
* `Tab.IsNamed.accounts_content` — all other elements are connected and name nothing.
* `view_is_served` — the view of a tab is served by it.
-/

namespace Dashboard

open Markup Markup.Node Wiring

/-- The state that a switch is to have is the one asked for. -/
@[simp] theorem Tab.targetState?_some (on : Bool) (present : Option Bool) :
    targetState? (some on) present = some on := rfl

/-! ### Elements of a view -/

/-- An element of one of the parts of a view, or else one that is connected and names nothing. -/
def Tab.Accounts (t : Tab) (now : Time.Instant) (e : Element Empty) : Prop :=
  (∃ part ∈ t.parts now, e ∈ part.node.elements) ∨ t.Connects [] e

namespace Tab

variable {t : Tab} {now : Time.Instant} {word : String}

/-- An element that does nothing when it is touched is accounted for. -/
theorem accounts_inert (e : Element Empty) (h : e.isInert = true) : t.Accounts now e :=
  .inr (connects_of_inert h)

/-- Connected elements that name nothing are accounted for, wherever they stand. -/
theorem accounts_of_connects {n : Node Empty} (h : Every (t.Connects []) n) :
    Every (t.Accounts now) n :=
  h.imp fun _ => .inr

/-- The button for another attempt is accounted for if the tab binds it and heeds its command. -/
theorem accounts_retryButton (hb : .click word [] ∈ t.bindings)
    (hr : ∀ c : Command, c.name = word → t.Heeds c []) :
    Every (t.Accounts now) (retryButton word) :=
  accounts_of_connects (connects_retryButton hb hr)

theorem accounts_actionButton {label : String} (hb : .click word [] ∈ t.bindings)
    (hr : ∀ c : Command, c.name = word → t.Heeds c []) :
    Every (t.Accounts now) (actionButton label word []) :=
  accounts_of_connects (connects_actionButton hb fun c hc _ => hr c hc)

/-- The same of a switch that carries no data; its command says which state is asked for. -/
theorem accounts_toggle {on : Bool} {state : String} (hb : .toggle word [] state ∈ t.bindings)
    (hr : ∀ (c : Command) (on : Bool), c.name = word → c.truth? state = some on →
      t.Heeds c []) : Every (t.Accounts now) (toggle word on []) :=
  accounts_of_connects (connects_toggle hb fun c on hc _ hon => hr c on hc hon)

/-- The elements of a part of the view are accounted for by that part. -/
theorem accounts_parts (t : Tab) (now : Time.Instant) :
    ∀ part ∈ t.parts now, Every (t.Accounts now) part.node :=
  fun part hpart _ he => .inl ⟨part, hpart, he⟩

end Tab

section

variable {c : Command} {names : List (String × String)}

/-! ### The job tab -/

namespace Cron

theorem Verb.ofWord?_word (v : Verb) : ofWord? v.word = some v := by
  cases v <;> decide

variable {s : State}

/-- Both ways of asking for another load are heeded. -/
theorem heeds_reload {v : Verb} (hv : v = .refresh ∨ v = .retry) (hc : c.name = v.word) :
    (Tab.cron s).Heeds c names := by
  refine .of_reload ?_
  rcases hv with rfl | rfl <;> simp [Tab.react, State.react, hc, Verb.ofWord?_word]

/-- The switch of the scheduler is heeded whatever was reported, as it says which state it asks
    for. -/
theorem heeds_toggleScheduler {on : Bool} (hc : c.name = Verb.toggleScheduler.word)
    (hon : c.truth? "enabled" = some on) : (Tab.cron s).Heeds c [] := by
  have hreact : ((Tab.cron s).react c).2 =
      .change ⟨.cron, "setSchedulerEnabled", some (.object [("enabled", .bool on)])⟩ := by
    simp [Tab.react, State.react, hc, Verb.ofWord?_word, State.toggleScheduler, hon]
  exact .of_change hreact rfl

/-- The switch of a job is heeded for the job that it names. -/
theorem heeds_toggleJob {name : String} {on : Bool} (hc : c.name = Verb.toggleJob.word)
    (hname : c.word? "name" = some name) (hon : c.truth? "enabled" = some on) :
    (Tab.cron s).Heeds c [("name", name)] := by
  have hreact : ((Tab.cron s).react c).2 =
      .change
        ⟨.cron, "setJobEnabled",
          some (.object [("enabled", .bool on), ("name", .string name)])⟩ := by
    simp [Tab.react, State.react, hc, Verb.ofWord?_word, State.toggleJob, hname, hon]
  exact .of_change hreact rfl

/-- A run is asked for of the job that is named. -/
theorem heeds_runNow {name : String} (hc : c.name = Verb.runNow.word)
    (hname : c.word? "name" = some name) : (Tab.cron s).Heeds c [("name", name)] := by
  have hreact : ((Tab.cron s).react c).2 =
      .change ⟨.cron, "runJobNow", some (.object [("name", .string name)])⟩ := by
    simp [Tab.react, State.react, hc, Verb.ofWord?_word, State.runNow, hname]
  exact .of_change hreact rfl

/-- Any limit is heeded: one out of range is moved into the range. -/
theorem heeds_setHistoryLimit {n : Nat} (hc : c.name = Verb.setHistoryLimit.word)
    (hn : c.count? "limit" = some n) : (Tab.cron s).Heeds c names :=
  .of_reload (by simp [Tab.react, State.react, hc, Verb.ofWord?_word, hn])

/-- What the selector offers is within the range if the limit in force is. -/
theorem offeredLimits_le {limit : Nat} (hl : limit ≤ maxHistoryLimit) :
    ∀ n ∈ offeredLimits limit, n ≤ maxHistoryLimit := by
  have husual : ∀ n ∈ usualLimits, n ≤ maxHistoryLimit := by decide
  intro n hn
  rw [offeredLimits] at hn
  split at hn
  · exact husual n hn
  · rcases List.mem_append.mp hn with hn | hn
    · exact husual n (List.takeWhile_subset _ hn)
    · rcases List.mem_cons.mp hn with rfl | hn
      · exact hl
      · exact husual n (List.dropWhile_subset _ hn)

/-- Each offer of the selector arrives as the number that it shows. -/
theorem connects_limitChoice {limit : Nat} (hl : limit ≤ maxHistoryLimit) :
    Every ((Tab.cron s).Connects names) (limitChoice limit) := by
  refine connects_choice (by decide : Binding.choose _ "limit" ∈ bindings) fun c hc hchosen => ?_
  obtain ⟨o, ho, hlimit⟩ := hchosen
  obtain ⟨n, hn, rfl⟩ := List.mem_map.mp ho
  have hbound : n < Binary64.significandBound :=
    Nat.lt_of_le_of_lt (offeredLimits_le hl n hn) (by decide)
  -- The option is the text of the limit, which reads as the limit.
  refine heeds_setHistoryLimit hc (n := n) ?_
  rw [Command.count?, Json.countOf?, hlimit, Option.bind_some, Payload.count?_toString hbound]

/-- Every control in the row of a job names that job. -/
theorem connects_parts {now : Time.Instant} (hs : s.load.Loaded Snapshot.IsNamed) :
    ∀ part ∈ s.parts now, Every ((Tab.cron s).Connects part.subject.names) part.node := by
  refine State.forall_mem_parts.mpr fun x hx j hj => ?_
  -- A name that is empty would be taken for none.
  have hname {c : Command} (hc : Carries [("name", j.name)] c) : c.word? "name" = some j.name :=
    hc _ List.mem_cons_self (hs x hx j hj)
  refine every_row (fun _ => connects_of_inert) j now ?_ ?_
  · exact connects_toggle (by decide : Binding.toggle _ ["name"] "enabled" ∈ bindings)
      fun c on hc hcarries hon => heeds_toggleJob hc (hname hcarries) hon
  · exact connects_actionButton (by decide : Binding.click _ ["name"] ∈ bindings)
      fun c hc hcarries => heeds_runNow hc (hname hcarries)

/-- Every element of the view stands in the row of a job or names nothing. -/
theorem accounts_content {now : Time.Instant} (hl : s.historyLimit ≤ maxHistoryLimit) :
    Every ((Tab.cron s).Accounts now) (s.content now) :=
  every_content Tab.accounts_inert s now
    { retry := Tab.accounts_retryButton (by decide : Binding.click _ [] ∈ bindings) fun _ =>
        heeds_reload (.inr rfl)
      refresh := Tab.accounts_actionButton (by decide : Binding.click _ [] ∈ bindings) fun _ =>
        heeds_reload (.inl rfl)
      limit := Tab.accounts_of_connects (connects_limitChoice hl)
      scheduler := fun on => Tab.accounts_toggle
        (by decide : Binding.toggle _ [] "enabled" ∈ bindings) fun _ _ => heeds_toggleScheduler
      parts := Tab.accounts_parts (.cron s) now }

end Cron

/-! ### The usage tab -/

namespace Stats

theorem Verb.ofWord?_word (v : Verb) : ofWord? v.word = some v := by
  cases v <;> decide

variable {s : State}

/-- Both ways of asking for another load are heeded. -/
theorem heeds_reload {v : Verb} (hv : v = .refresh ∨ v = .retry) (hc : c.name = v.word) :
    (Tab.stats s).Heeds c names := by
  refine .of_reload ?_
  rcases hv with rfl | rfl <;> simp [Tab.react, State.react, hc, Verb.ofWord?_word]

/-- A click on a module shows or hides its details. -/
theorem heeds_selectModule (hc : c.name = Verb.selectModule.word) : (Tab.stats s).Heeds c names :=
  .of_redraw (by simp [Tab.react, State.react, hc, Verb.ofWord?_word])

/-- A module is cleared under the name that the button carries. -/
theorem heeds_clearModule {name : String} (hc : c.name = Verb.clearModule.word)
    (hname : c.word? "module" = some name) : (Tab.stats s).Heeds c [("module", name)] := by
  have hreact : ((Tab.stats s).react c).2 =
      .change ⟨.stats, "clearModule", some (.object [("module", .string name)])⟩ := by
    simp [Tab.react, State.react, hc, Verb.ofWord?_word, State.clearModule, hname]
  exact .of_change hreact rfl

/-- Every control of a module names that module. -/
theorem connects_parts (hs : s.load.Loaded Snapshot.IsNamed) :
    ∀ part ∈ s.parts, Every ((Tab.stats s).Connects part.subject.names) part.node := by
  refine State.forall_mem_parts.mpr fun x hx => ⟨fun ms hms m hm => ?_, fun m hm => ?_⟩
  · refine every_row (fun _ => connects_of_inert) m _ _ fun classes children => ?_
    exact connects_click rfl rfl (by decide : Binding.click _ ["module"] ∈ bindings) fun _ hc _ =>
      heeds_selectModule hc
  · obtain ⟨ms, hms, hmem⟩ := Snapshot.exists_of_module? hm
    refine every_detail (fun _ => connects_of_inert) m _ ?_
    refine connects_actionButton (by decide : Binding.click _ ["module"] ∈ bindings)
      fun c hc hcarries => heeds_clearModule hc ?_
    exact hcarries _ List.mem_cons_self (hs x hx ms hms m hmem)

/-- Every element of the view stands in a part for a module or names nothing. -/
theorem accounts_content {now : Time.Instant} :
    Every ((Tab.stats s).Accounts now) (s.content now) :=
  every_content Tab.accounts_inert s now
    { retry := Tab.accounts_retryButton (by decide : Binding.click _ [] ∈ bindings) fun _ =>
        heeds_reload (.inr rfl)
      refresh := Tab.accounts_actionButton (by decide : Binding.click _ [] ∈ bindings) fun _ =>
        heeds_reload (.inl rfl)
      parts := Tab.accounts_parts (.stats s) now }

end Stats

/-! ### The findings tab -/

namespace Slop

theorem Verb.ofWord?_word (v : Verb) : ofWord? v.word = some v := by
  cases v <;> decide

variable {s : State}

/-- Both ways of asking for another load are heeded. -/
theorem heeds_reload {v : Verb} (hv : v = .refresh ∨ v = .retry) (hc : c.name = v.word) :
    (Tab.slop s).Heeds c names := by
  refine .of_reload ?_
  rcases hv with rfl | rfl <;> simp [Tab.react, State.react, hc, Verb.ofWord?_word]

/-- A scan is asked for without further words. -/
theorem heeds_scanNow (hc : c.name = Verb.scanNow.word) : (Tab.slop s).Heeds c [] := by
  have hreact : ((Tab.slop s).react c).2 = .change ⟨.slop, "scanNow", none⟩ := by
    simp [Tab.react, State.react, hc, Verb.ofWord?_word]
  exact .of_change hreact rfl

/-- The switch of the loop is heeded whatever was reported, as it says which state it asks for. -/
theorem heeds_toggleLoop {on : Bool} (hc : c.name = Verb.toggleLoop.word)
    (hon : c.truth? "enabled" = some on) : (Tab.slop s).Heeds c [] := by
  have hreact : ((Tab.slop s).react c).2 =
      .change ⟨.slop, "setLoopEnabled", some (.object [("enabled", .bool on)])⟩ := by
    simp [Tab.react, State.react, hc, Verb.ofWord?_word, State.toggleLoop, hon]
  exact .of_change hreact rfl

/-- A finding is dismissed under the id that the button carries. -/
theorem heeds_dismiss {id : String} (hc : c.name = Verb.dismiss.word)
    (hid : c.word? "id" = some id) : (Tab.slop s).Heeds c [("id", id)] := by
  have hreact : ((Tab.slop s).react c).2 =
      .change ⟨.slop, "dismissFinding", some (.object [("id", .string id)])⟩ := by
    simp [Tab.react, State.react, hc, Verb.ofWord?_word, State.dismiss, hid]
  exact .of_change hreact rfl

/-- Any query is heeded, the empty one included. -/
theorem heeds_search (hc : c.name = Verb.search.word) : (Tab.slop s).Heeds c names :=
  .of_redraw (by simp [Tab.react, State.react, hc, Verb.ofWord?_word])

/-- Any choice of a severity is heeded. -/
theorem heeds_filterSeverity (hc : c.name = Verb.filterSeverity.word) :
    (Tab.slop s).Heeds c names :=
  .of_redraw (by simp [Tab.react, State.react, hc, Verb.ofWord?_word])

/-- The field for searching is connected, whether it is left or the enter key is pressed in it. -/
theorem connects_searchField (query : Option String) :
    Every ((Tab.slop s).Connects names) (searchField query) := by
  have hchange : Binding.choose Verb.search.word "query" ∈ bindings := by decide
  have henter : Binding.submit Verb.search.word "query" ∈ bindings := by decide
  rw [searchField, every_element]
  exact ⟨connects_search rfl rfl hchange henter fun _ => heeds_search, everyAll_nil⟩

/-- Every control of a finding carries the id of that finding. -/
theorem connects_parts (hs : s.load.Loaded Snapshot.IsNamed) :
    ∀ part ∈ s.parts, Every ((Tab.slop s).Connects part.subject.names) part.node := by
  refine State.forall_mem_parts.mpr fun x hx fs hfs f hf id hid => ?_
  refine every_row (fun _ => connects_of_inert) f fun id' hid' => ?_
  obtain rfl := Option.some.inj (hid.symm.trans hid')
  refine connects_actionButton (by decide : Binding.click _ ["id"] ∈ bindings)
    fun c hc hcarries => heeds_dismiss hc ?_
  exact hcarries _ List.mem_cons_self (hs x hx fs hfs f (List.mem_of_mem_filter hf) id hid)

/-- Every element of the view stands in the row of a finding or names nothing. -/
theorem accounts_content {now : Time.Instant} :
    Every ((Tab.slop s).Accounts now) (s.content now) :=
  every_content Tab.accounts_inert s now
    { retry := Tab.accounts_retryButton (by decide : Binding.click _ [] ∈ bindings) fun _ =>
        heeds_reload (.inr rfl)
      refresh := Tab.accounts_actionButton (by decide : Binding.click _ [] ∈ bindings) fun _ =>
        heeds_reload (.inl rfl)
      scanNow := Tab.accounts_actionButton (by decide : Binding.click _ [] ∈ bindings) fun _ =>
        heeds_scanNow
      loop := fun on => Tab.accounts_toggle
        (by decide : Binding.toggle _ [] "enabled" ∈ bindings) fun _ _ => heeds_toggleLoop
      search := Tab.accounts_of_connects (connects_searchField _)
      severity := Tab.accounts_of_connects <|
        connects_choice (by decide : Binding.choose _ "severity" ∈ bindings) fun _ hc _ =>
          heeds_filterSeverity hc
      parts := Tab.accounts_parts (.slop s) now }

end Slop

/-! ### The tools tab -/

namespace Tools

theorem Verb.ofWord?_word (v : Verb) : ofWord? v.word = some v := by
  cases v <;> decide

variable {s : State}

/-- Both ways of asking for another load are heeded. -/
theorem heeds_reload {v : Verb} (hv : v = .refresh ∨ v = .retry) (hc : c.name = v.word) :
    (Tab.tools s).Heeds c names := by
  refine .of_reload ?_
  rcases hv with rfl | rfl <;> simp [Tab.react, State.react, hc, Verb.ofWord?_word]

/-- A click on a module shows its tools. -/
theorem heeds_selectModule (hc : c.name = Verb.selectModule.word) : (Tab.tools s).Heeds c names :=
  .of_redraw (by simp [Tab.react, State.react, hc, Verb.ofWord?_word])

/-- A click on a tool shows or hides its details. -/
theorem heeds_selectTool (hc : c.name = Verb.selectTool.word) : (Tab.tools s).Heeds c names :=
  .of_redraw (by simp [Tab.react, State.react, hc, Verb.ofWord?_word])

/-- The switch of a tool is heeded for the tool and the module that it names. -/
theorem heeds_toggleTool {module tool : String} {on : Bool} (hc : c.name = Verb.toggleTool.word)
    (hmodule : c.word? "module" = some module) (htool : c.word? "tool" = some tool)
    (hon : c.truth? "enabled" = some on) :
    (Tab.tools s).Heeds c [("module", module), ("tool", tool)] := by
  have hreact : ((Tab.tools s).react c).2 =
      .change
        ⟨.tools, "setToolEnabled",
          some (.object
            [("enabled", .bool on), ("module", .string module), ("tool", .string tool)])⟩ := by
    simp [Tab.react, State.react, hc, Verb.ofWord?_word, State.toggleTool, hmodule, htool, hon]
  exact .of_change hreact rfl

/-- Every control of a tool names the tool and its module, and every other control a module. -/
theorem connects_parts (hs : s.load.Loaded Snapshot.IsNamed) :
    ∀ part ∈ s.parts, Every ((Tab.tools s).Connects part.subject.names) part.node := by
  refine State.forall_mem_parts.mpr fun x hx => ⟨fun ks hks k hk => ?_, fun k hk tool ht => ?_⟩
  · refine every_item (fun _ => connects_of_inert) k _ fun classes children => ?_
    exact connects_click rfl rfl (by decide : Binding.click _ ["module"] ∈ bindings) fun _ hc _ =>
      heeds_selectModule hc
  · obtain ⟨ks, hks, hmem⟩ := Snapshot.exists_of_active? hk
    obtain ⟨hkit, htools⟩ := hs x hx ks hks k hmem
    refine every_row (fun _ => connects_of_inert) tool k.name _ ?_ fun children => ?_
    · refine connects_toggle (by decide : Binding.toggle _ ["module", "tool"] "enabled" ∈ bindings)
        fun c on hc hcarries hon => heeds_toggleTool hc ?_ ?_ hon
      · exact hcarries _ List.mem_cons_self hkit
      · exact hcarries _ (List.mem_cons_of_mem _ List.mem_cons_self) (htools tool ht)
    -- The cell carries no module, but its command asks the daemon for nothing.
    · exact connects_click rfl rfl (by decide : Binding.click _ ["tool"] ∈ bindings) fun _ hc _ =>
        heeds_selectTool hc

/-- Every element of the view stands in a part for a module or a tool or names nothing. -/
theorem accounts_content {now : Time.Instant} :
    Every ((Tab.tools s).Accounts now) (s.content now) :=
  every_content Tab.accounts_inert s now
    { retry := Tab.accounts_retryButton (by decide : Binding.click _ [] ∈ bindings) fun _ =>
        heeds_reload (.inr rfl)
      refresh := Tab.accounts_actionButton (by decide : Binding.click _ [] ∈ bindings) fun _ =>
        heeds_reload (.inl rfl)
      parts := Tab.accounts_parts (.tools s) now }

end Tools

/-! ### The context tab -/

namespace Context

theorem Verb.ofWord?_word (v : Verb) : ofWord? v.word = some v := by
  cases v <;> decide

variable {s : State}

/-- Both ways of asking for another load are heeded. -/
theorem heeds_reload {v : Verb} (hv : v = .refresh ∨ v = .retry) (hc : c.name = v.word) :
    (Tab.context s).Heeds c names := by
  refine .of_reload ?_
  rcases hv with rfl | rfl <;> simp [Tab.react, State.react, hc, Verb.ofWord?_word]

/-- The context is cleared without further words. -/
theorem heeds_clear (hc : c.name = Verb.clear.word) : (Tab.context s).Heeds c [] := by
  have hreact : ((Tab.context s).react c).2 = .change ⟨.context, "clearContext", none⟩ := by
    simp [Tab.react, State.react, hc, Verb.ofWord?_word]
  exact .of_change hreact rfl

/-- An item is pinned or released under the id that the switch carries. -/
theorem heeds_pin {id : String} {on : Bool} (hc : c.name = Verb.pin.word)
    (hid : c.word? "id" = some id) (hon : c.truth? "pinned" = some on) :
    (Tab.context s).Heeds c [("id", id)] := by
  have hreact : ((Tab.context s).react c).2 =
      .change
        ⟨.context, "setPinned", some (.object [("id", .string id), ("pinned", .bool on)])⟩ := by
    simp [Tab.react, State.react, hc, Verb.ofWord?_word, State.pin, hid, hon]
  exact .of_change hreact rfl

/-- Every control of an item carries the id of that item. -/
theorem connects_parts (hs : s.load.Loaded Snapshot.IsNamed) :
    ∀ part ∈ s.parts, Every ((Tab.context s).Connects part.subject.names) part.node := by
  refine State.forall_mem_parts.mpr fun x hx i hi => ?_
  refine every_row (fun _ => connects_of_inert) i ?_
  refine connects_toggle (by decide : Binding.toggle _ ["id"] "pinned" ∈ bindings)
    fun c on hc hcarries hon => heeds_pin hc ?_ hon
  exact hcarries _ List.mem_cons_self (hs x hx i hi)

/-- Every element of the view stands in the row of an item or names nothing. -/
theorem accounts_content {now : Time.Instant} :
    Every ((Tab.context s).Accounts now) (s.content now) :=
  every_content Tab.accounts_inert s now
    { retry := Tab.accounts_retryButton (by decide : Binding.click _ [] ∈ bindings) fun _ =>
        heeds_reload (.inr rfl)
      refresh := Tab.accounts_actionButton (by decide : Binding.click _ [] ∈ bindings) fun _ =>
        heeds_reload (.inl rfl)
      clear := Tab.accounts_actionButton (by decide : Binding.click _ [] ∈ bindings) fun _ =>
        heeds_clear
      parts := Tab.accounts_parts (.context s) now }

end Context

end

/-! ### All tabs -/

namespace Tab

variable {t : Tab} {now : Time.Instant}

/-- The parts of a view are connected and name what they are about. -/
theorem IsNamed.connects_parts (h : t.IsNamed) :
    ∀ part ∈ t.parts now, Every (t.Connects part.subject.names) part.node := by
  cases t with
  | cron s => exact Cron.connects_parts h.1
  | stats s => exact Stats.connects_parts h
  | slop s => exact Slop.connects_parts h
  | tools s => exact Tools.connects_parts h
  | context s => exact Context.connects_parts h

/-- The elements of a view that are in none of its parts are connected and name nothing. -/
theorem IsNamed.accounts_content (h : t.IsNamed) : Every (t.Accounts now) (t.content now) := by
  cases t with
  | cron s => exact Cron.accounts_content h.2
  | stats s => exact Stats.accounts_content
  | slop s => exact Slop.accounts_content
  | tools s => exact Tools.accounts_content
  | context s => exact Context.accounts_content

end Tab

/-- Whatever loads and commands a tab has seen, every element of its view is served: those of the
    parts of the view with mutations that name what the part is about, all others with mutations
    that name nothing. -/
theorem view_is_served {t : Tab} (ht : t.Reached) (now : Time.Instant) :
    (∀ part ∈ t.parts now, part.node.elements ⊆ (t.content now).elements ∧
      ∀ e ∈ part.node.elements, t.Serves part.subject.names e) ∧
    ∀ e ∈ (t.content now).elements, (∀ part ∈ t.parts now, e ∉ part.node.elements) →
      t.Serves [] e := by
  refine ⟨fun part hpart => ⟨Tab.parts_subset hpart, fun e he => ?_⟩, fun e he hnone => ?_⟩
  · exact (ht.isNamed.connects_parts part hpart e he).serves
  · rcases ht.isNamed.accounts_content e he with ⟨part, hpart, hmem⟩ | hconnects
    · exact absurd hmem (hnone part hpart)
    · exact hconnects.serves

/-- The button in the row of a job that is named like markup runs that job and no other. -/
theorem view_is_served_quoted :
    ∃ t : Tab, t.Reached ∧ (Panel.ofTabs [t]).tab? t.id = some t ∧
      ∃ part ∈ t.parts ⟨0, 0⟩, part.subject = .job "\"><b" ∧
        ∃ e ∈ part.node.elements, e.action? = some Cron.Verb.runNow.word ∧
          t.Serves [("name", "\"><b")] e := by
  let listing : Tab.Report :=
    ⟨[⟨"getJobs", .ok (.array [.object [("name", .string "\"><b")]])⟩]⟩
  let job : Cron.Job := ⟨"\"><b", "", true, false, none, none, none⟩
  have ht : Tab.Reached (((Tab.new .cron 3 20).begin.2).complete 1 listing).2 :=
    .complete (.begin (.new .cron 3 20)) 1 listing
  have hparts : Tab.parts (((Tab.new .cron 3 20).begin.2).complete 1 listing).2 ⟨0, 0⟩ =
      [⟨.job "\"><b", job.row ⟨0, 0⟩⟩] := rfl
  have hpart := hparts ▸ List.mem_singleton_self _
  have hbutton : ⟨.button, [.plain .action Cron.Verb.runNow.word, .data "name" "\"><b"],
      [text "Run now"]⟩ ∈ (job.row ⟨0, 0⟩).elements := List.mem_of_getElem? (i := 11) rfl
  refine ⟨_, ht, by simp [Panel.ofTabs, Panel.tab?], _, hpart, rfl, _, hbutton, rfl, ?_⟩
  exact ((view_is_served ht ⟨0, 0⟩).1 _ hpart).2 _ hbutton

end Dashboard
