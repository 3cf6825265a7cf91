import Dashboard.Panel.Document
import Dashboard.Proofs.LoadHistory
/-!
# What the steps of a tab keep

A tab changes in three ways: a load begins, a load ends, and a command comes. None of them makes it
a tab on another daemon.

* `Tab.rendering_begin` — that a load begins cannot be seen.
* `Tab.complete_current`, `Tab.complete_stale` — only the load that began last has an effect.
* `Tab.Alike` — tabs that differ in no load but for the count of failures.
* `Tab.Reacts`, `Tab.reacts` — a command that asks for nothing, or for a mutation, changes nothing,
  and no command changes what was loaded.
-/

namespace Dashboard

namespace Tab

variable (t : Tab)

/-! ### The daemon of a tab -/

@[simp] theorem daemon_new (d : Daemon) (cap historyLimit : Nat) :
    (new d cap historyLimit).daemon = d := by cases d <;> rfl

@[simp] theorem daemon_begin : t.begin.2.daemon = t.daemon := by cases t <;> rfl

@[simp] theorem daemon_complete (ticket : Nat) (report : Report) :
    (t.complete ticket report).2.daemon = t.daemon := by cases t <;> rfl

@[simp] theorem id_begin : t.begin.2.id = t.id := by simp [id, identity]

@[simp] theorem id_complete (ticket : Nat) (report : Report) :
    (t.complete ticket report).2.id = t.id := by simp [id, identity]

@[simp] theorem identity_begin : t.begin.2.identity = t.identity := by simp [identity]

/-! ### A load begins -/

@[simp] theorem begin_fst : t.begin.1 = t.status.issued + 1 := by cases t <;> rfl

@[simp] theorem issued_begin : t.begin.2.status.issued = t.status.issued + 1 := by
  cases t <;> rfl

@[simp] theorem attempts_begin : t.begin.2.status.attempts = t.status.attempts := by
  cases t <;> rfl

@[simp] theorem lastError_begin : t.begin.2.status.lastError = t.status.lastError := by
  cases t <;> rfl

@[simp] theorem queries_begin : t.begin.2.queries = t.queries := by cases t <;> rfl

@[simp] theorem badge_begin : t.begin.2.badge = t.badge := by cases t <;> rfl

/-- The load that began last has an effect. -/
theorem complete_current (report : Report) :
    (t.complete t.status.issued report).1 = true := by
  cases t <;> simp [complete, status, LoadState.status, LoadState.complete_current]

/-- Any other load has none. -/
theorem complete_stale {ticket : Nat} (ht : ticket ≠ t.status.issued) (report : Report) :
    t.complete ticket report = (false, t) := by
  cases t <;> simp [complete, LoadState.complete_stale ht]

/-- What becomes of a tab when the load ends that began last. -/
theorem status_complete (report : Report) :
    (t.complete t.status.issued report).2.status =
      if report.anySuccess then
        { t.status with lastError := none, attempts := t.status.attempts.reset, phase := .loaded }
      else
        { t.status with
          lastError := some report.summary
          attempts := t.status.attempts.increment
          phase := .errored } := by
  cases t <;>
    simp only [complete, status, LoadState.status, LoadState.complete_current, LoadState.apply] <;>
    split <;> rfl

/-- The end of a load issues no number. -/
@[simp] theorem issued_complete (ticket : Nat) (report : Report) :
    (t.complete ticket report).2.status.issued = t.status.issued := by
  by_cases ht : ticket = t.status.issued
  · subst ht
    rw [status_complete]
    split <;> rfl
  · rw [complete_stale t ht]

/-! ### A command comes -/

/-- Loads that differ at most in the count of failures. -/
def LoadState.Alike {σ : Type} (s s' : LoadState σ) : Prop :=
  ∃ n, s' = { s with attempts := { s.attempts with count := n } }

theorem LoadState.Alike.refl {σ : Type} (s : LoadState σ) : s.Alike s :=
  ⟨s.attempts.count, rfl⟩

theorem LoadState.alike_reset {σ : Type} (s : LoadState σ) : s.Alike s.resetAttempts := ⟨0, rfl⟩

/-- Tabs on one daemon whose loads differ at most in the count of failures. -/
inductive Alike : Tab → Tab → Prop where
  | cron {s s' : Cron.State} (h : s.load.Alike s'.load) : Alike (.cron s) (.cron s')
  | stats {s s' : Stats.State} (h : s.load.Alike s'.load) : Alike (.stats s) (.stats s')
  | slop {s s' : Slop.State} (h : s.load.Alike s'.load) : Alike (.slop s) (.slop s')
  | tools {s s' : Tools.State} (h : s.load.Alike s'.load) : Alike (.tools s) (.tools s')
  | context {s s' : Context.State} (h : s.load.Alike s'.load) : Alike (.context s) (.context s')

/-- A reaction that asks for nothing, or for a mutation of the daemon. -/
def Reaction.Asks (d : Daemon) : Reaction → Prop
  | .ignored _ => True
  | .change m => m.daemon = d
  | _ => False

/-- What may come of a command: it is refused or asks for a mutation, and the tab stays as it is; or
    the tab asks to be drawn again or to be loaded, and its loads stay as they are but for the
    count of failures. -/
inductive Reacts (t : Tab) : Tab × Reaction → Prop where
  | asks {r : Reaction} (h : r.Asks t.daemon) : Reacts t (t, r)
  | redraw {t' : Tab} (h : t.Alike t') : Reacts t (t', .redraw)
  | reload {t' : Tab} (h : t.Alike t') : Reacts t (t', .reload)

end Tab

namespace Cron.State

open Tab

/-- The switch of the scheduler is refused or asks for a mutation of its own daemon. -/
theorem toggleScheduler_asks (s : State) (c : Command) : (s.toggleScheduler c).Asks .cron := by
  unfold toggleScheduler
  split <;> trivial

/-- The switch of a job is refused or asks for a mutation of its own daemon. -/
theorem toggleJob_asks (s : State) (c : Command) : (s.toggleJob c).Asks .cron := by
  unfold toggleJob
  split
  · trivial
  · dsimp only
    split <;> trivial

/-- A job that is to run at once is refused or asked for at its own daemon. -/
theorem runNow_asks (c : Command) : (runNow c).Asks .cron := by
  unfold runNow
  split <;> trivial

/-- What may come of a command to the tab of scheduled jobs. -/
theorem reacts (s : State) (c : Command) :
    (cron s).Reacts (cron (s.react c).1, (s.react c).2) := by
  unfold react
  split
  · exact .asks trivial
  · exact .reload (.cron (.refl _))
  · exact .reload (.cron s.load.alike_reset)
  · exact .asks (s.toggleScheduler_asks c)
  · exact .asks (s.toggleJob_asks c)
  · exact .asks (runNow_asks c)
  · split
    · exact .asks trivial
    · exact .reload (.cron (.refl _))

end Cron.State

namespace Stats.State

open Tab

/-- A module is cleared at its own daemon, if at all. -/
theorem clearModule_asks (s : State) (c : Command) : (s.clearModule c).Asks .stats := by
  unfold clearModule
  split <;> trivial

/-- What may come of a command to the tab of call statistics. -/
theorem reacts (s : State) (c : Command) :
    (stats s).Reacts (stats (s.react c).1, (s.react c).2) := by
  unfold react
  split
  · exact .asks trivial
  · exact .reload (.stats (.refl _))
  · exact .reload (.stats s.load.alike_reset)
  · exact .redraw (.stats (.refl _))
  · exact .asks (s.clearModule_asks c)

end Stats.State

namespace Slop.State

open Tab

/-- The switch of the loop is refused or asks for a mutation of its own daemon. -/
theorem toggleLoop_asks (s : State) (c : Command) : (s.toggleLoop c).Asks .slop := by
  unfold toggleLoop
  split <;> trivial

/-- A finding is dismissed at its own daemon, if at all. -/
theorem dismiss_asks (c : Command) : (dismiss c).Asks .slop := by
  unfold dismiss
  split <;> trivial

/-- What may come of a command to the tab of findings. -/
theorem reacts (s : State) (c : Command) :
    (slop s).Reacts (slop (s.react c).1, (s.react c).2) := by
  unfold react
  split
  · exact .asks trivial
  · exact .reload (.slop (.refl _))
  · exact .reload (.slop s.load.alike_reset)
  · exact .asks rfl
  · exact .asks (s.toggleLoop_asks c)
  · exact .asks (dismiss_asks c)
  · exact .redraw (.slop (.refl _))
  · exact .redraw (.slop (.refl _))

end Slop.State

namespace Tools.State

open Tab

/-- The switch of a tool is refused or asks for a mutation of its own daemon. -/
theorem toggleTool_asks (s : State) (c : Command) : (s.toggleTool c).Asks .tools := by
  unfold toggleTool
  split
  · trivial
  · dsimp only
    split
    · trivial
    · split <;> trivial

/-- What may come of a command to the tab of tools. -/
theorem reacts (s : State) (c : Command) :
    (tools s).Reacts (tools (s.react c).1, (s.react c).2) := by
  unfold react
  split
  · exact .asks trivial
  · exact .reload (.tools (.refl _))
  · exact .reload (.tools s.load.alike_reset)
  · exact .redraw (.tools (.refl _))
  · exact .redraw (.tools (.refl _))
  · exact .asks (s.toggleTool_asks c)

end Tools.State

namespace Context.State

open Tab

/-- A part is pinned or let go at its own daemon, if at all. -/
theorem pin_asks (s : State) (c : Command) : (s.pin c).Asks .context := by
  unfold pin
  split
  · trivial
  · dsimp only
    split <;> trivial

/-- What may come of a command to the tab of the context window. -/
theorem reacts (s : State) (c : Command) :
    (context s).Reacts (context (s.react c).1, (s.react c).2) := by
  unfold react
  split
  · exact .asks trivial
  · exact .reload (.context (.refl _))
  · exact .reload (.context s.load.alike_reset)
  · exact .asks rfl
  · exact .asks (s.pin_asks c)

end Context.State

namespace Tab

/-- What may come of a command, whatever the tab. -/
theorem reacts (t : Tab) (c : Command) : t.Reacts (t.react c) := by
  cases t with
  | cron s => exact s.reacts c
  | stats s => exact s.reacts c
  | slop s => exact s.reacts c
  | tools s => exact s.reacts c
  | context s => exact s.reacts c

/-! ### What tabs that are alike share -/

/-- A tab is alike to itself. -/
theorem Alike.refl (t : Tab) : t.Alike t := by
  cases t with
  | cron => exact .cron (.refl _)
  | stats => exact .stats (.refl _)
  | slop => exact .slop (.refl _)
  | tools => exact .tools (.refl _)
  | context => exact .context (.refl _)

/-- What a tab has loaded stays as it is at a command. -/
theorem alike_react (t : Tab) (c : Command) : t.Alike (t.react c).1 := by
  have hr := t.reacts c
  generalize t.react c = answer at hr ⊢
  cases hr with
  | asks => exact .refl t
  | redraw ha | reload ha => exact ha

theorem Alike.daemon_eq {t t' : Tab} (h : t.Alike t') : t'.daemon = t.daemon := by
  cases h <;> rfl

theorem Alike.id_eq {t t' : Tab} (h : t.Alike t') : t'.id = t.id := by
  simp [id, identity, h.daemon_eq]

/-- The badge depends on what was loaded, not on the count of failures. -/
theorem LoadState.Alike.badge_eq {σ : Type} {s s' : LoadState σ} (h : s.Alike s')
    (ofSnapshot : σ → Option Badge) : s'.badge ofSnapshot = s.badge ofSnapshot := by
  obtain ⟨n, rfl⟩ := h
  rfl

theorem Alike.badge_eq {t t' : Tab} (h : t.Alike t') : t'.badge = t.badge := by
  cases h <;> exact LoadState.Alike.badge_eq ‹_› _

/-- Tabs that are alike have begun the same number of loads. -/
theorem Alike.issued_eq {t t' : Tab} (h : t.Alike t') : t'.status.issued = t.status.issued := by
  cases h <;> (obtain ⟨n, hn⟩ := ‹LoadState.Alike _ _›; simp [status, LoadState.status, hn])

/-- Alike loads failed with the same error, or neither did. -/
theorem LoadState.Alike.lastError_eq {σ : Type} {s s' : LoadState σ} (h : s.Alike s') :
    s'.lastError = s.lastError := by
  obtain ⟨n, rfl⟩ := h
  rfl

theorem Alike.lastError_eq {t t' : Tab} (h : t.Alike t') :
    t'.status.lastError = t.status.lastError := by
  cases h <;> exact LoadState.Alike.lastError_eq ‹_›

end Tab

end Dashboard
