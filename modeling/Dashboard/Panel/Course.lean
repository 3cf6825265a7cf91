import Dashboard.Panel.Session
import Mathlib.Logic.Relation
/-!
# The course of a session

A session goes on by moves: a command comes, a piece of work in flight is complete, or no more
commands come. Any piece of work may be complete next, and daemons answer as they like.

* `Panel.Work.Yields` — what may come of a piece of work.
* `Session.Move` — what may happen next, `Session.Allows` — whether it may, `Session.after` — what
  it leads to, `Session.step` — the same before anything is sent.
* `Course` — a session with all that was sent and all that happened so far.
* `Course.first` — the beginning of a session, `Course.Next` — one move more, `Course.follow` —
  several of them.
* `Course.logAt`, `Course.inFlightAt` — what concerns one tab.
-/

namespace Dashboard

open Panel

namespace Panel

/-- The place of the tab that a piece of work is for. -/
def Work.index : Work → Nat
  | load index .. => index
  | change index _ => index

def Work.isLoad : Work → Bool
  | load .. => true
  | change .. => false

/-- The daemon that a piece of work asks. -/
def Work.daemon : Work → Daemon
  | load _ _ daemon _ => daemon
  | change _ mutation => mutation.daemon

/-- The place of the tab that a completion is for. -/
def Completion.index : Completion → Nat
  | loaded index .. => index
  | changed index _ => index

/-- What may come of a piece of work. A load brings an outcome for each of its calls, in their
    order, and a mutation brings a reply. -/
inductive Work.Yields : Work → Completion → Prop where
  | load {index ticket : Nat} {daemon : Daemon} {queries : List Tab.Query} {report : Tab.Report}
      (h : report.outcomes.map (·.method) = queries.map (·.method)) :
      Yields (.load index ticket daemon queries) (.loaded index ticket report)
  | change {index : Nat} {mutation : Tab.Mutation} {reply : Reply} :
      Yields (.change index mutation) (.changed index reply)

instance (w : Work) (done : Completion) : Decidable (w.Yields done) :=
  match w, done with
  | .load i ticket _ queries, .loaded j ticket' report =>
    decidable_of_iff
      (i = j ∧ ticket = ticket' ∧ report.outcomes.map (·.method) = queries.map (·.method))
      ⟨by rintro ⟨rfl, rfl, h⟩; exact .load h, by rintro ⟨h⟩; exact ⟨rfl, rfl, h⟩⟩
  | .change i _, .changed j _ =>
    decidable_of_iff (i = j) ⟨by rintro rfl; exact .change, by rintro ⟨⟩; rfl⟩
  | .load .., .changed .. => isFalse nofun
  | .change .., .loaded .. => isFalse nofun

/-- Whether a completion has an effect: a report may come too late, a mutation is always followed by
    a load. -/
def takes (p : Panel) : Completion → Bool
  | .loaded index ticket report => p.tabs[index]?.any fun t => (t.complete ticket report).1
  | .changed .. => true

end Panel

namespace Session

/-- What may happen next in a session. A piece of work is named by its place among those in
    flight. -/
inductive Move where
  | receive (c : Command)
  | settle (place : Nat) (done : Completion)
  /-- No more commands come. -/
  | close

/-- Whether a move waits for commands. -/
def Move.listens : Move → Bool
  | settle .. => false
  | _ => true

/-- Whether a move may happen. -/
def Allows (s : Session) : Move → Prop
  | .settle place done => ∃ work, s.inFlight[place]? = some work ∧ work.Yields done
  | _ => True

instance (s : Session) (m : Move) : Decidable (s.Allows m) :=
  match m with
  | .receive _ | .close => .isTrue trivial
  | .settle place done =>
    match h : s.inFlight[place]? with
    | none => .isFalse fun ⟨_, hw, _⟩ => nomatch h.symm.trans hw
    | some w => decidable_of_iff (w.Yields done)
        ⟨fun hy => ⟨w, h, hy⟩, fun ⟨_, hw, hy⟩ => Option.some.inj (h.symm.trans hw) ▸ hy⟩

/-- What a move leads to. -/
def after (s : Session) (now : Time.Instant) : Move → Sent
  | .receive c => s.receive c now
  | .settle place done => s.settle (s.inFlight.eraseIdx place) done now
  | .close => let (session, frames) := s.flush now; { session, frames }

/-- What a move leads to before anything is sent. -/
def step (s : Session) : Move → Session
  | .receive c =>
    let routed := s.panel.dispatch c
    { panel := routed.panel, inFlight := s.inFlight ++ routed.work }
  | .settle place done =>
    let applied := s.panel.apply done
    { panel := applied.panel, inFlight := s.inFlight.eraseIdx place ++ applied.work }
  | .close => s

/-- Something that happened in a session. -/
inductive Event where
  | received (c : Command)
  | started (work : Work)
  /-- A piece of work is complete, to some effect or to none. -/
  | ended (done : Completion) (taken : Bool)

namespace Event

/-- Whether something happened to the tab at a place. -/
def concerns (i : Nat) : Event → Bool
  | received _ => false
  | started work => work.index == i
  | ended done _ => done.index == i

def startsLoad : Event → Bool
  | started work => work.isLoad
  | _ => false

def endsChange : Event → Bool
  | ended (.changed ..) _ => true
  | _ => false

def appliesLoad : Event → Bool
  | ended (.loaded ..) taken => taken
  | _ => false

end Event

/-- What happens with a move, in order. -/
def events (s : Session) : Move → List Event
  | .receive c => .received c :: (s.panel.dispatch c).work.map .started
  | .settle _ done => .ended done (s.panel.takes done) :: (s.panel.apply done).work.map .started
  | .close => []

end Session

/-- A session with all that was sent and all that happened so far. -/
structure Course where
  session : Session
  /-- Whether commands may still come. -/
  listening : Bool := true
  frames : List Frame := []
  log : List Session.Event := []

namespace Course

open Session

/-- A panel with no work in flight. -/
def idle (p : Panel) : Course := { session := { panel := p } }

/-- The beginning of a session on a panel. -/
def first (p : Panel) (now : Time.Instant) : Course :=
  let sent := start p now
  { session := sent.session, frames := sent.frames, log := sent.session.inFlight.map .started }

/-- Where a course may begin: with the session, or with a panel that is driven from outside. -/
inductive Opens (p : Panel) : Course → Prop where
  | idle : Opens p (idle p)
  | first (now : Time.Instant) : Opens p (first p now)

/-- The course after a move. -/
def after (x : Course) (now : Time.Instant) (m : Move) : Course :=
  let sent := x.session.after now m
  { session := sent.session
    listening := match m with | .close => false | _ => x.listening
    frames := x.frames ++ sent.frames
    log := x.log ++ x.session.events m }

/-- One move more, at a moment. -/
inductive NextAt (now : Time.Instant) (x : Course) : Course → Prop where
  | move (m : Move) (hl : m.listens = true → x.listening = true) (ha : x.session.Allows m) :
      NextAt now x (x.after now m)

/-- One move more, at any moment. -/
def Next (x y : Course) : Prop := ∃ now, NextAt now x y

/-- The course after several moves at one moment. -/
def follow (now : Time.Instant) : Course → List Move → Course
  | x, [] => x
  | x, m :: rest => (x.after now m).follow now rest

/-- Whether several moves may happen one after the other. -/
def Admits (now : Time.Instant) : Course → List Move → Prop
  | _, [] => True
  | x, m :: rest =>
    (m.listens = true → x.listening = true) ∧ x.session.Allows m ∧ (x.after now m).Admits now rest

instance decidableAdmits (now : Time.Instant) :
    (x : Course) → (moves : List Move) → Decidable (x.Admits now moves)
  | _, [] => .isTrue trivial
  | x, m :: rest =>
    have := decidableAdmits now (x.after now m) rest
    inferInstanceAs (Decidable (_ ∧ _ ∧ _))

/-- Moves that may happen lead where they lead. -/
theorem reaches_follow {now : Time.Instant} {x : Course} {moves : List Move}
    (h : x.Admits now moves) : Relation.ReflTransGen (NextAt now) x (x.follow now moves) := by
  induction moves generalizing x with
  | nil => exact .refl
  | cons m rest ih =>
    obtain ⟨hl, ha, hrest⟩ := h
    exact (Relation.ReflTransGen.single (.move m hl ha)).trans (ih hrest)

/-- What one moment leads to is a course. -/
theorem reaches_of_at {now : Time.Instant} {x y : Course}
    (h : Relation.ReflTransGen (NextAt now) x y) : Relation.ReflTransGen Next x y := by
  induction h with
  | refl => exact .refl
  | tail _ hnext ih => exact ih.tail ⟨now, hnext⟩

/-- What happened to the tab at a place. -/
def logAt (x : Course) (i : Nat) : List Event := x.log.filter (·.concerns i)

/-- The work in flight for the tab at a place. -/
def inFlightAt (x : Course) (i : Nat) : List Work := x.session.inFlight.filter (·.index == i)

/-- The session is over: no more commands come, and no work is in flight. -/
def Over (x : Course) : Prop := x.listening = false ∧ x.session.inFlight = []

end Course

end Dashboard
