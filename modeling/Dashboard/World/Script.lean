import Dashboard.World.Basic
/-!
# Daemons that follow a script

A script says what daemons answer and keeps a record of what they were asked. A call is answered
by the first reply that waits for it, or else by an echo of its parameters, or else by the reply
that always holds, or else by a failure that names the method.

* `Script.enqueue`, `Script.echo`, `Script.respond` — entries of a script.
* `Script.answer` — the reply to a call.
* `Rehearsal` — a script with a clock that stands still and the notices taken so far; it makes a
  world.
-/

namespace Dashboard

/-- A method of a daemon. -/
structure Script.Key where
  daemon : Daemon
  method : String
  deriving DecidableEq, Repr

/-- A call that was made. -/
structure Script.Call where
  daemon : Daemon
  method : String
  params : Option Json

/-- What daemons answer and what they were asked. -/
structure Script where
  /-- Replies that are given once, in order. -/
  waiting : List (Script.Key × Reply) := []
  /-- Methods that give their parameters back. -/
  echoes : List Script.Key := []
  /-- Replies that always hold, the latest first. -/
  lasting : List (Script.Key × Reply) := []
  /-- The calls made so far, in order. -/
  calls : List Script.Call := []

namespace Script

/-- One more reply that is given once. -/
def enqueue (s : Script) (k : Key) (r : Reply) : Script :=
  { s with waiting := s.waiting ++ [(k, r)] }

/-- The method gives its parameters back. -/
def echo (s : Script) (k : Key) : Script := { s with echoes := k :: s.echoes }

/-- The reply that holds from now on. -/
def respond (s : Script) (k : Key) (r : Reply) : Script :=
  { s with lasting := (k, r) :: s.lasting }

/-- The reply for a method that the script does not mention. -/
def unscripted (k : Key) : Reply :=
  .failure ("no scripted response for " ++ k.daemon.name ++ "." ++ k.method)

/-- The reply to a call for which none waits. -/
def standing (s : Script) (k : Key) (params : Option Json) : Reply :=
  if s.echoes.contains k then .ok (params.getD .null)
  else
    match s.lasting.find? (·.1 == k) with
    | some (_, r) => r
    | none => unscripted k

/-- The reply to a call. -/
def answer (s : Script) (d : Daemon) (method : String) (params : Option Json) : Reply × Script :=
  let k : Key := ⟨d, method⟩
  let s : Script := { s with calls := s.calls ++ [⟨d, method, params⟩] }
  match s.waiting.find? (·.1 == k) with
  | some (_, r) => (r, { s with waiting := s.waiting.eraseP (·.1 == k) })
  | none => (s.standing k params, s)

/-- How many calls were made to a method, whatever the daemon. -/
def callCount (s : Script) (method : String) : Nat :=
  (s.calls.filter (·.method == method)).length

/-- The script without a record of calls. -/
def forgetCalls (s : Script) : Script := { s with calls := [] }

end Script

/-- A script, a clock that stands still, and the notices taken so far. -/
structure Rehearsal where
  script : Script := {}
  clock : Time.Instant := { seconds := 0 }
  notices : List Notice := []

instance : World (StateM Rehearsal) where
  call d method params := modifyGet fun r =>
    let (reply, script) := r.script.answer d method params
    (reply, { r with script })
  now := return (← get).clock
  note n := modify fun r => { r with notices := r.notices ++ [n] }

end Dashboard
