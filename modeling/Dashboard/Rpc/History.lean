import Dashboard.Rpc.Ledger
/-!
# The history of requests

What was done to the requests of any number of connections, as a list with the latest deed first.

* `Rpc.Deed` — a request is registered or answered, requests are given up, a caller looks or leaves.
* `Rpc.replay` — what a history leads to, `Rpc.handedOut` — the ids that requests got,
  `Rpc.taken` — the answers that a caller has seen.
* `Rpc.Registered`, `Rpc.AwaitsSince`, `Rpc.EndedBy`, `Rpc.Attended` — what can be read off a
  history alone: that a request was registered, that it waits, what put an end to its wait, and
  that its caller has not left.
-/

namespace Dashboard.Rpc

/-- Something done to the requests of a connection. Connections are numbered. -/
inductive Deed where
  | register (i now : Nat)
  | complete (i : Nat) (id : String) (r : Response)
  | cleanup (i now timeout : Nat)
  | clear (i : Nat)
  | leave (i : Nat) (id : String)
  | look (i : Nat) (id : String)

/-- The exchange after a deed. -/
def Exchange.after (e : Exchange) : Deed → Exchange
  | .register i now => (e.register i now).2
  | .complete i id r => (e.complete i id r).2
  | .cleanup i now timeout => (e.cleanup i now timeout).2
  | .clear i => (e.clear i).2
  | .leave i id => e.leave i id
  | .look i id => (e.look i id).2

/-- What a history leads to, from connections without any request. -/
def replay : List Deed → Exchange
  | [] => {}
  | d :: earlier => (replay earlier).after d

/-- How many requests were registered. -/
def registered : List Deed → Nat
  | .register .. :: earlier => registered earlier + 1
  | _ :: earlier => registered earlier
  | [] => 0

/-- The ids that were handed out, the latest first. -/
def handedOut : List Deed → List String
  | .register i now :: earlier => ((replay earlier).register i now).1 :: handedOut earlier
  | _ :: earlier => handedOut earlier
  | [] => []

/-- The answers that the caller of a request has seen, the latest first. -/
def taken (i : Nat) (id : String) : List Deed → List Response
  | .look j id' :: earlier =>
    if j = i ∧ id' = id then
      match ((replay earlier).look i id).1 with
      | some (.answer r) => r :: taken i id earlier
      | _ => taken i id earlier
    else taken i id earlier
  | _ :: earlier => taken i id earlier
  | [] => []

/-! ### What a history tells of one request -/

/-- A request was registered on a connection and got the id; `later` is what was done after that. -/
def Registered (h : List Deed) (i : Nat) (id : String) (since : Nat) (later : List Deed) : Prop :=
  ∃ earlier, h = later ++ .register i since :: earlier ∧
    ((replay earlier).register i since).1 = id

/-- Whether a deed puts an end to the wait of a request: it is answered, it has waited too long, or
    its connection gives up every request. -/
def Deed.Ends (i : Nat) (id : String) (since : Nat) : Deed → Prop
  | complete j id' _ => j = i ∧ id' = id
  | cleanup j now timeout => j = i ∧ timeout ≤ now - since
  | clear j => j = i
  | _ => False

/-- A request was registered and nothing has put an end to its wait. -/
def AwaitsSince (h : List Deed) (i : Nat) (id : String) (since : Nat) : Prop :=
  ∃ later, Registered h i id since later ∧ ∀ d ∈ later, ¬ d.Ends i id since

def Awaits (h : List Deed) (i : Nat) (id : String) : Prop := ∃ since, AwaitsSince h i id since

/-- A deed that came while a request waited put an end to its wait. -/
def EndedBy (h : List Deed) (i : Nat) (id : String) (d : Deed) : Prop :=
  ∃ later earlier since, h = later ++ d :: earlier ∧ AwaitsSince earlier i id since ∧
    d.Ends i id since

/-- A request was registered and its caller has not left since. -/
def Attended (h : List Deed) (i : Nat) (id : String) : Prop :=
  ∃ since later, Registered h i id since later ∧ .leave i id ∉ later

/-- The first answer that came under the id of a request while the request waited. -/
def Answered (h : List Deed) (i : Nat) (id : String) (r : Response) : Prop :=
  EndedBy h i id (.complete i id r)

/-- A request was given up, because it had waited too long or with all others. -/
def GivenUp (h : List Deed) (i : Nat) (id : String) : Prop :=
  (∃ now timeout, EndedBy h i id (.cleanup i now timeout)) ∨ EndedBy h i id (.clear i)

end Dashboard.Rpc
