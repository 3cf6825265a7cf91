import Dashboard.Panel.Course
/-!
# Mutations at the daemons

While a mutation is in flight it takes effect at its daemon, at some moment between the command that
asked for it and its completion. A session does not see that moment.

* `Site` — a session whose work in flight may have taken effect, with all effects so far.
* `Site.Move` — what may happen next: a move of the session, or an effect. `Site.Allows` — whether
  it may, `Site.after` — what it leads to.
* `Site.Next` — one move more that asks for no change of what is watched.
* `Tab.Mutation.switch?`, `lastSet?` — the value that mutations leave at a daemon.
-/

namespace Dashboard

open Panel

namespace Session

/-- The work that a move makes. -/
def made (s : Session) : Move → List Work
  | .receive c => (s.panel.dispatch c).work
  | .settle _ done => (s.panel.apply done).work
  | .close => []

/-- What a move leaves of a list that goes with the work in flight. -/
def Move.leaves {α : Type} (l : List α) : Move → List α
  | settle place _ => l.eraseIdx place
  | _ => l

end Session

/-- A piece of work in flight. -/
structure Site.Call where
  work : Work
  /-- Whether the daemon has done what a mutation asks for. -/
  effective : Bool := false

/-- A piece of work that has just begun. -/
def Site.Call.start (work : Work) : Call := { work }

/-- The mutation that is still to take effect. -/
def Site.Call.pending? (c : Call) : Option Tab.Mutation :=
  match c.effective, c.work with
  | false, .change _ m => some m
  | _, _ => none

/-- A session with what happened at the daemons. -/
structure Site where
  panel : Panel
  calls : List Site.Call := []
  /-- The mutations that took effect, the latest last. -/
  effects : List Tab.Mutation := []

namespace Site

/-- What the session sees of a site. -/
def session (a : Site) : Session := { panel := a.panel, inFlight := a.calls.map (·.work) }

/-- What may happen next. A call is named by its place among those in flight. -/
inductive Move where
  | own (m : Session.Move)
  /-- A mutation takes effect. -/
  | effect (place : Nat)

/-- Whether a move may happen. A mutation is complete only after it took effect, and it takes effect
    once. -/
def Allows (a : Site) : Move → Prop
  | .own m =>
    a.session.Allows m ∧
      match m with
      | .settle place _ => (a.calls[place]?.bind Call.pending?).isNone = true
      | _ => True
  | .effect place => (a.calls[place]?.bind Call.pending?).isSome = true

instance (a : Site) (m : Move) : Decidable (a.Allows m) :=
  match m with
  | .own (.settle ..) | .own (.receive _) | .own .close => inferInstanceAs (Decidable (_ ∧ _))
  | .effect _ => inferInstanceAs (Decidable (_ = true))

/-- What a move leads to. -/
def after (a : Site) (now : Time.Instant) : Move → Site
  | .own m =>
    { panel := (a.session.after now m).session.panel
      calls := m.leaves a.calls ++ (a.session.made m).map .start
      effects := a.effects }
  | .effect place =>
    match a.calls[place]? with
    | none => a
    | some call =>
      { a with
        calls := a.calls.set place { call with effective := true }
        effects := a.effects ++ call.pending?.toList }

/-- Whether a move asks for no change of what is watched, given what each mutation sets. -/
def Quiet {α : Type} (sets? : Tab.Mutation → Option α) (a : Site) : Move → Prop
  | .own m => ∀ index mutation, .change index mutation ∈ a.session.made m → sets? mutation = none
  | .effect _ => True

/-- One move more, at any moment, that asks for no change of what is watched. -/
inductive Next {α : Type} (sets? : Tab.Mutation → Option α) (a : Site) : Site → Prop where
  | move (now : Time.Instant) (m : Move) (ha : a.Allows m) (hq : a.Quiet sets? m) :
      Next sets? a (a.after now m)

/-- The beginning of a session. -/
def first (p : Panel) (now : Time.Instant) : Site :=
  let s := (Session.start p now).session
  { panel := s.panel, calls := s.inFlight.map .start }

/-- The site after several moves at one moment. -/
def follow (now : Time.Instant) : Site → List Move → Site
  | a, [] => a
  | a, m :: rest => (a.after now m).follow now rest

/-- Whether several moves may happen one after the other. -/
def Admits (now : Time.Instant) : Site → List Move → Prop
  | _, [] => True
  | a, m :: rest => a.Allows m ∧ (a.after now m).Admits now rest

instance decidableAdmits (now : Time.Instant) :
    (a : Site) → (moves : List Move) → Decidable (a.Admits now moves)
  | _, [] => .isTrue trivial
  | a, m :: rest =>
    have := decidableAdmits now (a.after now m) rest
    inferInstanceAs (Decidable (_ ∧ _))

end Site

/-! ### What is left at a daemon -/

/-- The value that was set last, given what each mutation sets. -/
def lastSet? {α : Type} (sets? : Tab.Mutation → Option α) (effects : List Tab.Mutation) :
    Option α :=
  (effects.filterMap sets?).getLast?

/-- The mutation that switches a job. -/
def Cron.switchJob (job : String) (on : Bool) : Tab.Mutation :=
  ⟨.cron, "setJobEnabled", some (.object [("enabled", .bool on), ("name", .string job)])⟩

/-- The state to which a mutation switches a job, if it does. -/
def Tab.Mutation.switch? (job : String) (m : Mutation) : Option Bool :=
  match m with
  | ⟨.cron, method, some (.object [(key, .bool on), (key', .string name)])⟩ =>
    if method = "setJobEnabled" ∧ key = "enabled" ∧ key' = "name" ∧ name = job then some on
    else none
  | _ => none

/-- The command that switches a job. -/
def Cron.toggle (job : String) (on : Bool) : Command :=
  { name := Verb.toggleJob.word
    tab := some identity.id
    arguments := [("enabled", .bool on), ("name", .string job)] }

end Dashboard
