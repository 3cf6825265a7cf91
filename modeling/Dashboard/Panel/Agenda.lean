import Dashboard.Panel.Course
/-!
# Sessions at which certain commands come

Which work a command makes depends on what it is taken for, and this on what the tabs hold when it
comes.

* `Panel.Route` — what a command may be taken for, `Panel.routeOf` — what it is taken for.
* `Panel.Route.completions` — how many completions this leads to.
* `Agenda` — the course of a session together with the commands that are still to come, and with
  what those were taken for that came.
* `Agenda.first` — the beginning, `Agenda.Next` — one move more.
* `Session.Drains` — one completion more where nobody listens for commands.
-/

namespace Dashboard

open Panel

/-- What a command is taken for. -/
inductive Panel.Route where
  /-- It makes no work. -/
  | rest
  /-- The load of one tab. -/
  | reload
  /-- A mutation, which is followed by the load of its tab. -/
  | change
  /-- The loads of all tabs. -/
  | refreshAll
  deriving DecidableEq, Repr

/-- How many completions a command leads to where there are so many tabs. -/
def Panel.Route.completions (tabs : Nat) : Route → Nat
  | rest => 0
  | reload => 1
  | change => 2
  | refreshAll => tabs

/-- What a command is taken for where a tab reacts to it. -/
def Tab.Reaction.route : Reaction → Route
  | reload => .reload
  | change _ => .change
  | ignored _ | redraw => .rest

namespace Panel

/-- The reaction that counts: that of the tab that the command names, or else the first one of a tab
    that handles the command. -/
def reactionTo? (p : Panel) (c : Command) : Option Tab.Reaction :=
  match c.tab with
  | some id => (p.tab? id).map fun t => (t.react c).2
  | none => (p.tabs.map fun t => (t.react c).2).find? (·.isHandled)

/-- What a command is taken for. -/
def routeOf (p : Panel) (c : Command) : Route :=
  if c.name = selectWord then .rest
  else if c.name = refreshWord then .refreshAll
  else (p.reactionTo? c).elim .rest (·.route)

end Panel

/-- The course of a session at which certain commands come. -/
structure Agenda where
  /-- The commands that are still to come, in order. -/
  waiting : List Command
  /-- What the commands were taken for that came, in order. -/
  routes : List Route := []
  course : Course

namespace Agenda

open Session

/-- The beginning of a session on a panel. -/
def first (p : Panel) (commands : List Command) (now : Time.Instant) : Agenda :=
  { waiting := commands, course := .first p now }

/-- One move more. Any piece of work in flight may be complete next, or else the next command comes
    or, if there is none, it turns out that no more will come. -/
inductive Next (a : Agenda) : Agenda → Prop where
  | receive {c : Command} {rest : List Command} (now : Time.Instant)
      (hl : a.course.listening = true) (hw : a.waiting = c :: rest) :
      Next a
        { waiting := rest
          routes := a.routes ++ [a.course.session.panel.routeOf c]
          course := a.course.after now (.receive c) }
  | settle {place : Nat} {done : Completion} (now : Time.Instant)
      (ha : a.course.session.Allows (.settle place done)) :
      Next a { a with course := a.course.after now (.settle place done) }
  | close (now : Time.Instant) (hl : a.course.listening = true) (hw : a.waiting = []) :
      Next a { a with course := a.course.after now .close }

end Agenda

namespace Session

/-- Any piece of work in flight is complete. -/
inductive Drains (s : Session) : Session → Prop where
  | settle {place : Nat} {done : Completion} (ha : s.Allows (.settle place done)) :
      Drains s (s.step (.settle place done))

/-- A command was handled and its work is in flight. -/
def ofCommand (p : Panel) (c : Command) : Session :=
  { panel := (p.dispatch c).panel, inFlight := (p.dispatch c).work }

end Session

/-- Something that came of a piece of work. -/
def Session.Event.isEnd : Event → Bool
  | ended .. => true
  | _ => false

/-- How many pieces of work were complete so far. -/
def Course.completions (x : Course) : Nat := x.log.countP (·.isEnd)

end Dashboard
