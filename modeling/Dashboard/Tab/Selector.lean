import Dashboard.Tab
import Dashboard.Wiring.Event
/-!
# What the choices in views have to tell

* `Node.controls` — the elements of a tree that are there for an action.
* `Element.selected` — the values of the options of a choice that are marked.
* `Element.reads?` — the value that a choice has before its user touches it: that of the last option
  that is marked, or of the first one of all if none is.
* `Cron.State.limitControls` — the choices of a limit in the view of the job tab, `Cron.Offers` — such
  a choice offers limits in ascending order, of which one is marked, `Cron.AsksFor` — a load asks for
  so many past runs.
* `Tab.Deed`, `Tab.replay` — what is done to a tab, and what a history makes of it. A history is a list
  of deeds with the latest one first.
* `Slop.State.severityControls` — the choices of a severity in the view of the tab on findings,
  `Slop.severityAsked` — the severity that a history asks for, `Slop.IsListed` — the choice has an
  option for it.
-/

namespace Dashboard

open Markup

/-! ### Choices -/

namespace Markup

variable {ρ : Type}

/-- Whether an element is there for an action. -/
def Element.isFor (action : String) (e : Element ρ) : Bool := e.action? == some action

/-- The elements of a tree that are there for an action, in the order of their start tags. -/
def Node.controls (action : String) (n : Node ρ) : List (Element ρ) :=
  n.elements.filter (·.isFor action)

namespace Element

/-- Whether an option is marked. -/
def isMarked : Node ρ → Bool
  | .element _ attributes _ => attributes.contains (.flag .selected)
  | _ => false

/-- The values of the options that are marked. -/
def selected (e : Element ρ) : List String := (e.children.filter isMarked).filterMap optionValue?

/-- The value that a choice has before its user touches it. -/
def reads? (e : Element ρ) : Option String := e.selected.getLast?.or e.choices.head?

end Element

end Markup

/-! ### The choice of a limit -/

namespace Cron

/-- The calls of a load ask for past runs once, and for so many. -/
def AsksFor (limit : Nat) (queries : List Tab.Query) : Prop :=
  queries.filter (·.method == historyMethod) =
    [{ method := historyMethod, params := some (.object [("limit", .nat limit)]) }]

/-- The choices of a limit in the view of the tab. -/
def State.limitControls (s : State) (now : Time.Instant) : List (Element Empty) :=
  (s.content now).controls Verb.setHistoryLimit.word

/-- A choice offers limits in ascending order, and the one limit alone is marked and read. -/
structure Offers (limit : Nat) (e : Element Empty) : Prop where
  ascending : ∃ limits : List Nat, e.choices = limits.map toString ∧ limits.Pairwise (· < ·)
  selected : e.selected = [toString limit]
  reads : e.reads? = some (toString limit)

end Cron

/-! ### The choice of a severity -/

namespace Tab

/-- Something done to a tab. Loads may end in any order, and with any ticket. -/
inductive Deed where
  | begin
  | complete (ticket : Nat) (report : Report)
  | command (c : Command)

/-- The tab after a deed. -/
def undergo (t : Tab) : Deed → Tab
  | .begin => t.begin.2
  | .complete ticket report => (t.complete ticket report).2
  | .command c => (t.react c).1

/-- The tab after a history. -/
def replay (t : Tab) : List Deed → Tab
  | [] => t
  | d :: earlier => (t.replay earlier).undergo d

end Tab

namespace Slop

/-- The severity that the last command to choose one asked for, in lower case; none if that asked for
    all of them, or for nothing, or if there was none. -/
def severityAsked : List Tab.Deed → Option String
  | [] => none
  | .begin :: earlier => severityAsked earlier
  | .complete .. :: earlier => severityAsked earlier
  | .command c :: earlier =>
    if c.name = Verb.filterSeverity.word then
      ((c.word? "severity").map Text.lowerAscii).filter (· != anySeverity)
    else severityAsked earlier

/-- A severity that can be chosen, or none. -/
def IsListed (severity : Option String) : Prop := ∀ s ∈ severity, s ∈ severities

/-- Whether the view of the tab has a section on findings. -/
def State.showsFindings (s : State) : Bool := s.load.snapshot.any (·.hasAnyData)

/-- The choices of a severity in the view of the tab. -/
def State.severityControls (s : State) (now : Time.Instant) : List (Element Empty) :=
  (s.content now).controls Verb.filterSeverity.word

end Slop

end Dashboard
