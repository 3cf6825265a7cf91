import Dashboard.Panel.Basic
import Dashboard.Tab.Drive
/-!
# Driving the panel

What the panel asks for is carried out, one piece of work after the other.

* `Panel.Work.perform` — carries out a piece of work.
* `Panel.drain` — carries out work, and the work that this makes, until there is none.
* `Panel.loadAll` — loads all tabs, `Panel.handle` — handles a command.
-/

namespace Dashboard.Panel

variable {m : Type → Type} [Monad m] [World m]

/-- Carries out a piece of work. -/
def Work.perform : Work → m Completion
  | load index ticket daemon queries => do
    return .loaded index ticket (← Tab.fetch daemon queries)
  | change index mutation => do
    return .changed index (← mutation.perform)

/-- How many completions a piece of work leads to. -/
def Work.weight : Work → Nat
  | load .. => 1
  | change .. => 2

/-- How many completions some work leads to. -/
def totalWeight (work : List Work) : Nat := work.foldr (fun w n => w.weight + n) 0

@[simp] theorem totalWeight_nil : totalWeight [] = 0 := rfl

@[simp] theorem totalWeight_cons (w : Work) (work : List Work) :
    totalWeight (w :: work) = w.weight + totalWeight work := by
  simp [totalWeight]

@[simp] theorem totalWeight_append (work more : List Work) :
    totalWeight (work ++ more) = totalWeight work + totalWeight more := by
  induction work with
  | nil => simp
  | cons w work ih => simp [ih, Nat.add_assoc]

/-- A load makes one completion at most. -/
theorem totalWeight_beginLoad_le (p : Panel) (index : Nat) :
    totalWeight (p.beginLoad index).2 ≤ 1 := by
  unfold beginLoad
  split <;> simp [Work.weight]

/-- A mutation that ends leads to one completion at most. -/
theorem totalWeight_applyChange_le (p : Panel) (index : Nat) :
    totalWeight (p.applyChange index).work ≤ 1 :=
  totalWeight_beginLoad_le p index

/-- Carries out work in order, and then the work that this makes. -/
def drain (p : Panel) : List Work → m Panel
  | [] => return p
  | .load index ticket daemon queries :: rest => do
    let applied := p.applyReport index ticket (← Tab.fetch daemon queries)
    World.noteAll applied.notices
    applied.panel.drain rest
  | .change index mutation :: rest => do
    let _ ← mutation.perform
    let applied := p.applyChange index
    applied.panel.drain (rest ++ applied.work)
termination_by work => totalWeight work
decreasing_by
  · simp [Work.weight]
  · have := totalWeight_applyChange_le p index
    simp [Work.weight]
    omega

/-- Loads all tabs. -/
def loadAll (p : Panel) : m Panel := do
  let (p, work) := p.beginAll
  p.drain work

/-- Handles a command and carries out all work that it makes; the answer says whether any tab, or
    the panel itself, knows the command. -/
def handle (p : Panel) (c : Command) : m (Bool × Panel) := do
  let routed := p.dispatch c
  World.noteAll routed.notices
  return (routed.handled, ← routed.panel.drain routed.work)

end Dashboard.Panel
