import Dashboard.Tab.Load
/-!
# The history of a tab's loads

What was done to the loads of a tab, as a list with the latest deed first.

* `LoadState.Deed` — a load begins or ends, or the count of failures is taken back.
* `LoadState.Watched` — the loads of a tab and how often it asked to be drawn again.
* `LoadState.replay` — what a history leads to, `LoadState.Proper` — loads end with tickets that
  they were given.
* `LoadState.begun`, `LoadState.applied`, `LoadState.failuresInARow`, `LoadState.endedLatest` — what
  can be read off a history alone.
-/

namespace Dashboard.Tab.LoadState

variable {σ : Type}

/-- Something done to the loads of a tab. A load ends with a report and with the way in which the
    tab makes a snapshot of it. -/
inductive Deed (σ : Type) where
  | begin
  | complete (ticket : Nat) (report : Report) (normalize : Report → σ)
  | resetAttempts

/-- The loads of a tab and how often it asked to be drawn again. -/
structure Watched (σ : Type) where
  load : LoadState σ
  signals : Nat := 0

namespace Watched

/-- A load ends. If its report was applied, the tab asks to be drawn again. -/
def complete (w : Watched σ) (ticket : Nat) (report : Report) (normalize : Report → σ) :
    Bool × Watched σ :=
  let (applied, load) := w.load.complete ticket report normalize
  (applied, { load, signals := w.signals + if applied then 1 else 0 })

/-- The loads after a deed. -/
def after (w : Watched σ) : Deed σ → Watched σ
  | .begin => { w with load := w.load.begin.2 }
  | .complete ticket report normalize => (w.complete ticket report normalize).2
  | .resetAttempts => { w with load := w.load.resetAttempts }

end Watched

/-- What a history leads to, from a tab that was never loaded. -/
def replay (cap : Nat) : List (Deed σ) → Watched σ
  | [] => { load := .new cap }
  | d :: earlier => (replay cap earlier).after d

/-- The tickets that were given in a history, the latest first. -/
def tickets (cap : Nat) : List (Deed σ) → List Nat
  | [] => []
  | .begin :: earlier => (replay cap earlier).load.begin.1 :: tickets cap earlier
  | .complete .. :: earlier => tickets cap earlier
  | .resetAttempts :: earlier => tickets cap earlier

/-- Whether loads only end with tickets that were given before. -/
def Proper (cap : Nat) : List (Deed σ) → Prop
  | [] => True
  | .begin :: earlier => Proper cap earlier
  | .complete ticket _ _ :: earlier => ticket ∈ tickets cap earlier ∧ Proper cap earlier
  | .resetAttempts :: earlier => Proper cap earlier

/-! ### What a history tells -/

/-- How many loads have begun. -/
def begun : List (Deed σ) → Nat
  | [] => 0
  | .begin :: earlier => begun earlier + 1
  | .complete .. :: earlier => begun earlier
  | .resetAttempts :: earlier => begun earlier

/-- The loads that ended while none had begun after them, each with its report and the way in which
    the tab makes a snapshot of it; the latest first. -/
def applied : List (Deed σ) → List (Report × (Report → σ))
  | [] => []
  | .begin :: earlier => applied earlier
  | .complete ticket report normalize :: earlier =>
    if ticket = begun earlier then (report, normalize) :: applied earlier else applied earlier
  | .resetAttempts :: earlier => applied earlier

/-- How many reports without a success were applied since the last one with a success, and since the
    count was taken back. -/
def failuresInARow : List (Deed σ) → Nat
  | [] => 0
  | .begin :: earlier => failuresInARow earlier
  | .complete ticket report _ :: earlier =>
    if ticket = begun earlier then
      if report.anySuccess then 0 else failuresInARow earlier + 1
    else failuresInARow earlier
  | .resetAttempts :: _ => 0

/-- Whether the load that began last has ended. -/
def endedLatest (history : List (Deed σ)) : Prop :=
  ∃ report normalize, .complete (begun history) report normalize ∈ history

/-- What the state of a tab has to be after a history. -/
structure Tells (cap : Nat) (history : List (Deed σ)) (w : Watched σ) : Prop where
  /-- The ticket of the last load is the number of loads. -/
  issued : w.load.issued = begun history
  /-- The snapshot is that of the last report with a success. -/
  snapshot : w.load.snapshot = ((applied history).find? (·.1.anySuccess)).map fun a => a.2 a.1
  /-- The error is that of the last report, if it had no success. -/
  lastError : w.load.lastError =
    (applied history).head?.bind fun a => if a.1.anySuccess then none else some a.1.summary
  /-- Failures in a row count up to the cap. -/
  attempts : w.load.attempts = { count := min cap (failuresInARow history), cap }
  /-- Nothing was ever loaded. -/
  uninitialized : begun history = 0 → w.load.phase = .uninitialized
  /-- The last load is still under way. -/
  loading : 0 < begun history → ¬ endedLatest history → w.load.phase = .loading
  /-- The last load has ended, and the last report says how. -/
  ended : endedLatest history → ∃ a rest, applied history = a :: rest ∧
    w.load.phase = if a.1.anySuccess then .loaded else .errored
  /-- Every report that is applied, and nothing else, asks for a drawing. -/
  signals : w.signals = (applied history).length

end Dashboard.Tab.LoadState
