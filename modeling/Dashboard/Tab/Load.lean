import Dashboard.Badge
import Dashboard.Notice
import Dashboard.Tab.Identity
import Dashboard.Tab.Report
/-!
# Loading a tab

Loads of one tab may overlap and finish in any order. Each is given a ticket when it begins, and
only the report of the load that began last is applied.

* `Tab.Attempts` — how many loads in a row have failed, up to a cap.
* `Tab.LoadState` — the snapshot that a tab shows and what became of its loads.
* `LoadState.begin` — a load begins.
* `LoadState.complete` — a load ends: a success replaces the snapshot and clears the error; a
  failure keeps the snapshot and sets the error; a load that is not the latest changes nothing.
* `LoadState.branch` — what the view shows.
-/

namespace Dashboard.Tab

/-- Failed loads in a row, counted up to a cap. -/
structure Attempts where
  count : Nat := 0
  cap : Nat
  deriving DecidableEq, Repr

namespace Attempts

/-- The cap where none is given. -/
def defaultCap : Nat := 3

/-- One more failure. -/
def increment (a : Attempts) : Attempts := { a with count := min (a.count + 1) a.cap }

def reset (a : Attempts) : Attempts := { a with count := 0 }

/-- What is to be noted of a report that a tab has applied, given the attempts after it. -/
def notices (a : Attempts) (id : String) (report : Report) : List Notice :=
  if report.anySuccess then []
  else
    [ .warning
        (id ++ ": load failed (attempt " ++ toString a.count ++ "/" ++ toString a.cap ++ "): " ++
          report.summary) ]

end Attempts

/-- The snapshot of a tab and what became of its loads. -/
structure LoadState (σ : Type) where
  /-- What the last successful load brought. -/
  snapshot : Option σ := none
  /-- Why the last load failed, if it did. -/
  lastError : Option String := none
  attempts : Attempts
  /-- How many loads have begun; the number is the ticket of the last one. -/
  issued : Nat := 0
  phase : Phase := .uninitialized

/-- What a view shows. -/
inductive Branch (σ : Type) where
  /-- Every load so far failed. -/
  | error (reason : String)
  /-- Nothing was loaded yet. -/
  | loading
  /-- A snapshot, which is stale if the last load failed. -/
  | data (snapshot : σ) (stale : Option String)

namespace LoadState

variable {σ : Type}

/-- A tab that was never loaded. -/
def new (cap : Nat) : LoadState σ := { attempts := { cap } }

/-- A load begins. Its ticket is one more than the last. -/
def begin (s : LoadState σ) : Nat × LoadState σ :=
  (s.issued + 1, { s with issued := s.issued + 1, phase := .loading })

/-- Whether a ticket is that of the load that began last. -/
def isCurrent (s : LoadState σ) (ticket : Nat) : Bool := ticket == s.issued

/-- The effect of a report. -/
def apply (s : LoadState σ) (report : Report) (normalize : Report → σ) : LoadState σ :=
  if report.anySuccess then
    { s with
      snapshot := some (normalize report)
      lastError := none
      attempts := s.attempts.reset
      phase := .loaded }
  else
    { s with
      lastError := some report.summary
      attempts := s.attempts.increment
      phase := .errored }

/-- A load ends; the answer says whether its report was applied. -/
def complete (s : LoadState σ) (ticket : Nat) (report : Report) (normalize : Report → σ) :
    Bool × LoadState σ :=
  if s.isCurrent ticket then (true, s.apply report normalize) else (false, s)

/-- The next failure counts as the first. -/
def resetAttempts (s : LoadState σ) : LoadState σ := { s with attempts := s.attempts.reset }

def branch (s : LoadState σ) : Branch σ :=
  match s.snapshot, s.lastError with
  | some x, stale => .data x stale
  | none, some reason => .error reason
  | none, none => .loading

/-- The badge of a tab that shows an error. -/
def errorBadge (s : LoadState σ) : Option Badge :=
  match s.branch with
  | .error _ => some .failure
  | _ => none

/-- The badge of a tab: that of an error, else that of the snapshot. -/
def badge (s : LoadState σ) (ofSnapshot : σ → Option Badge) : Option Badge :=
  s.errorBadge.or (s.snapshot.bind ofSnapshot)

end LoadState

end Dashboard.Tab
