import Dashboard.Panel.Document
import Dashboard.Panel.Drive
/-!
# Sessions

A session serves the view embedding the dashboard: it takes commands and sends frames. It begins
by sending the bar and every tab and by loading every tab; whenever something has happened, it
sends every tab that asked to be drawn again, and then the bar if anything on it may have changed.

* `Session` — the panel and the work in flight.
* `Session.start` — the beginning.
* `Session.receive` — a command comes, `Session.settle` — a piece of work is complete. The pieces of
  work in flight may complete in any order.
* `Session.run` — a session that completes all work before it takes the next command.
-/

namespace Dashboard

/-- The panel and the work in flight. -/
structure Session where
  panel : Panel
  inFlight : List Panel.Work := []

namespace Session

open Panel

/-- What a step came to: the session after it and the frames that are sent. -/
structure Sent where
  session : Session
  frames : List Frame
  notices : List Notice := []

/-- Sends the tabs that asked to be drawn again, and then the bar if need be. -/
def flush (s : Session) (now : Time.Instant) : Session × List Frame :=
  let (ids, panel) := s.panel.takeSignals
  let renders := ids.filterMap fun id => (panel.render? id now).map Frame.render
  if !ids.isEmpty || panel.barChanged then
    let panel := { panel with barChanged := false }
    ({ s with panel }, renders ++ [panel.bar])
  else ({ s with panel }, renders)

/-- The beginning: the bar, every tab in order, and the load of every tab. -/
def start (p : Panel) (now : Time.Instant) : Sent :=
  let renders := p.tabs.filterMap fun t => (p.render? t.id now).map Frame.render
  let (panel, inFlight) := p.beginAll
  { session := { panel, inFlight }, frames := p.bar :: renders }

/-- A command comes. -/
def receive (s : Session) (c : Command) (now : Time.Instant) : Sent :=
  let routed := s.panel.dispatch c
  let (session, frames) :=
    flush { panel := routed.panel, inFlight := s.inFlight ++ routed.work } now
  { session, frames, notices := routed.notices }

/-- A piece of work, of which what is given has come, is complete; `rest` is the other work in
    flight. -/
def settle (s : Session) (rest : List Work) (done : Completion) (now : Time.Instant) : Sent :=
  let applied := s.panel.apply done
  let (session, frames) := flush { panel := applied.panel, inFlight := rest ++ applied.work } now
  { session, frames, notices := applied.notices }

/-- The end of a session. -/
def endNotice : Notice := .info "Host event loop finished"

/-! ### Running a session -/

variable {m : Type → Type} [Monad m] [World m]

/-- Completes the work in flight in order, and with it the work that this makes. The first argument
    bounds the number of completions. -/
def complete (send : Frame → m Unit) : Nat → Session → m Session
  | 0, s => return s
  | steps + 1, s =>
    match s.inFlight with
    | [] => return s
    | work :: rest => do
      let done ← work.perform
      let sent := s.settle rest done (← World.now)
      World.noteAll sent.notices
      sent.frames.forM send
      complete send steps sent.session

/-- Completes all work in flight. -/
def completeAll (send : Frame → m Unit) (s : Session) : m Session :=
  complete send (totalWeight s.inFlight) s

/-- Begins a session on a panel. -/
def begin (send : Frame → m Unit) (p : Panel) : m Session := do
  let sent := start p (← World.now)
  sent.frames.forM send
  completeAll send sent.session

/-- Takes a command and completes the work that it makes. -/
def take (send : Frame → m Unit) (s : Session) (c : Command) : m Session := do
  let sent := s.receive c (← World.now)
  World.noteAll sent.notices
  sent.frames.forM send
  completeAll send sent.session

/-- A whole session with the commands that come. -/
def run (send : Frame → m Unit) (p : Panel) (commands : List Command) : m Session := do
  let s ← commands.foldlM (take send) (← begin send p)
  World.note endNotice
  return s

end Session

/-- A session with its frames collected. It fails at its first frame if nobody takes them. -/
def Session.collect {m : Type → Type} [Monad m] [World m] (attended : Bool) (p : Panel)
    (commands : List Command) : m (Except Fault (List Frame)) :=
  if attended then do
    let send (f : Frame) : StateT (List Frame) m Unit := modify fun fs => fs ++ [f]
    return .ok (← (Session.run send p commands).run []).2
  else return .error (.channelSend "channel closed")

end Dashboard
