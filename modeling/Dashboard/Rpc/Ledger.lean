import Dashboard.Rpc.Message
/-!
# Matching answers to requests

* `Rpc.Ledger` — the requests of one connection that wait for an answer.
* `Rpc.Mailbox` — what the caller of a request finds: nothing yet, the answer, or that none will
  come.
* `Rpc.Connection` — a ledger and the callers' mailboxes.
* `Rpc.Connection.receive` — what a text from the daemon does.
* `Rpc.Exchange` — any number of connections, which take the ids of requests from one counter.

An answer is delivered to the mailbox of the request whose id it has, and only while that request
waits; a request whose caller has left is answered all the same, but nobody sees the answer.
-/

namespace Dashboard.Rpc

/-- A request that waits. -/
structure Waiting where
  id : String
  /-- When it was registered, in milliseconds. -/
  since : Nat
  deriving DecidableEq, Repr

/-- The requests that wait, oldest first, each under an id of its own. -/
structure Ledger where
  waiting : List Waiting := []
  distinct : (waiting.map (·.id)).Nodup := by exact List.nodup_nil
  deriving DecidableEq, Repr

namespace Ledger

def ids (l : Ledger) : List String := l.waiting.map (·.id)

def size (l : Ledger) : Nat := l.waiting.length

def contains (l : Ledger) (id : String) : Bool := l.ids.contains id

def erase (l : Ledger) (id : String) : Ledger where
  waiting := l.waiting.filter (·.id != id)
  distinct := l.distinct.sublist (List.filter_sublist.map _)

theorem mem_erase {l : Ledger} {id : String} {w : Waiting} :
    w ∈ (l.erase id).waiting ↔ w ∈ l.waiting ∧ w.id ≠ id := by
  simp [erase]

/-- The ids of a ledger are those of its requests. -/
theorem mem_ids {l : Ledger} {id : String} : id ∈ l.ids ↔ ∃ since, ⟨id, since⟩ ∈ l.waiting := by
  simp only [ids, List.mem_map]
  constructor
  · rintro ⟨w, hw, rfl⟩
    exact ⟨w.since, hw⟩
  · rintro ⟨since, hw⟩
    exact ⟨_, hw, rfl⟩

/-- A ledger contains the ids of its requests. -/
theorem contains_iff {l : Ledger} {id : String} :
    l.contains id = true ↔ ∃ since, ⟨id, since⟩ ∈ l.waiting := by
  rw [← mem_ids]
  simp [contains]

/-- A request begins to wait, in place of one that waits under the same id. -/
def register (l : Ledger) (id : String) (now : Nat) : Ledger where
  waiting := (l.erase id).waiting ++ [⟨id, now⟩]
  distinct := by
    rw [List.map_append, List.nodup_append]
    refine ⟨(l.erase id).distinct, by simp, ?_⟩
    simp only [List.mem_map, mem_erase]
    rintro _ ⟨w, ⟨-, hw⟩, rfl⟩ _ ⟨_, h, rfl⟩
    simpa [List.mem_singleton.mp h] using hw

/-- The requests that have waited for `timeout` milliseconds or longer. -/
def stale (l : Ledger) (now timeout : Nat) : List String :=
  (l.waiting.filter fun w => timeout ≤ now - w.since).map (·.id)

/-- The requests that have not. -/
def fresh (l : Ledger) (now timeout : Nat) : Ledger where
  waiting := l.waiting.filter fun w => !(timeout ≤ now - w.since)
  distinct := l.distinct.sublist (List.filter_sublist.map _)

end Ledger

/-- What a caller finds. -/
inductive Mailbox where
  /-- No answer yet. `attended` as long as the caller still looks. -/
  | empty (attended : Bool)
  /-- The answer, not yet taken. -/
  | holding (r : Response)
  /-- There is no answer and none will come. -/
  | closed

namespace Mailbox

/-- An answer arrives. -/
def deliver (r : Response) : Mailbox → Mailbox
  | empty true => holding r
  | empty false => closed
  | holding r' => holding r'
  | closed => closed

/-- The answer is given up. -/
def abandon : Mailbox → Mailbox
  | empty _ => closed
  | holding r => holding r
  | closed => closed

/-- The caller stops looking. -/
def leave : Mailbox → Mailbox
  | empty _ => empty false
  | holding r => holding r
  | closed => closed

/-- What the caller sees. -/
inductive Sight where
  | nothing
  | answer (r : Response)
  | closed

/-- The caller looks; an answer can be taken once. -/
def look : Mailbox → Sight × Mailbox
  | empty true => (.nothing, empty true)
  | empty false => (.closed, empty false)
  | holding r => (.answer r, closed)
  | closed => (.closed, closed)

end Mailbox

/-- The requests of one connection, with the mailboxes of their callers. -/
structure Connection where
  ledger : Ledger := {}
  /-- The mailbox of every request so far, in order. -/
  mailboxes : List (String × Mailbox) := []

namespace Connection

/-- The mailbox of the caller of a request. -/
def mailbox? (c : Connection) (id : String) : Option Mailbox :=
  (c.mailboxes.find? (·.1 == id)).map (·.2)

/-- Changes the mailboxes of requests. -/
def mapMailboxes (c : Connection) (p : String → Bool) (f : Mailbox → Mailbox) : Connection :=
  { c with mailboxes := c.mailboxes.map fun (id, m) => (id, if p id then f m else m) }

/-- What is done to the mailboxes of some ids is seen in the mailbox of one. -/
theorem mailbox?_mapMailboxes (c : Connection) {id : String} {p : String → Bool}
    {f g : Mailbox → Mailbox} (hg : ∀ m, (if p id then f m else m) = g m) :
    (c.mapMailboxes p f).mailbox? id = (c.mailbox? id).map g := by
  have hp : ((fun x : String × Mailbox => x.1 == id) ∘
      fun (id, m) => (id, if p id then f m else m)) = fun x => x.1 == id := rfl
  simp only [mapMailboxes, mailbox?, List.find?_map, hp, Option.map_map]
  cases hf : c.mailboxes.find? (fun x => x.1 == id) with
  | none => rfl
  | some x =>
    have hx : x.1 = id := by simpa using List.find?_some hf
    simp [hx, hg]

/-- Registers a request. One that waits under the same id is given up. -/
def register (c : Connection) (id : String) (now : Nat) : Connection where
  ledger := c.ledger.register id now
  mailboxes := (c.mapMailboxes (· == id) Mailbox.abandon).mailboxes ++ [(id, .empty true)]

/-- Delivers an answer to a request that waits. -/
def complete (c : Connection) (id : String) (r : Response) : Bool × Connection :=
  if c.ledger.contains id then
    (true, { c.mapMailboxes (· == id) (·.deliver r) with ledger := c.ledger.erase id })
  else (false, c)

/-- Gives up the requests that have waited for `timeout` milliseconds or longer. -/
def cleanup (c : Connection) (now timeout : Nat) : List String × Connection :=
  let ids := c.ledger.stale now timeout
  (ids, { c.mapMailboxes ids.contains Mailbox.abandon with ledger := c.ledger.fresh now timeout })

/-- Gives up every request that waits. -/
def clear (c : Connection) : Nat × Connection :=
  (c.ledger.size, { c.mapMailboxes c.ledger.contains Mailbox.abandon with ledger := {} })

/-- The caller of a request stops looking. -/
def leave (c : Connection) (id : String) : Connection :=
  c.mapMailboxes (· == id) Mailbox.leave

/-- The caller of a request looks. -/
def look (c : Connection) (id : String) : Option Mailbox.Sight × Connection :=
  ((c.mailbox? id).map (·.look.1), c.mapMailboxes (· == id) (·.look.2))

/-- Takes a text from the daemon: an answer ends the wait of its request, any other text changes
    nothing. -/
def receive (c : Connection) (text : String) : Connection :=
  match Message.read text with
  | .response r =>
    match r.id with
    | some id => (c.complete id { r with id := none }).2
    | none => c
  | _ => c

end Connection

/-- Any number of connections and the counter for the ids of requests. -/
structure Exchange where
  /-- The number of the next request. -/
  next : UInt64 := 1
  connections : Nat → Connection := fun _ => {}

namespace Exchange

def setConnection (e : Exchange) (i : Nat) (c : Connection) : Exchange :=
  { e with connections := fun j => if j = i then c else e.connections j }

/-- Registers a request on a connection under the next id. -/
def register (e : Exchange) (i now : Nat) : String × Exchange :=
  let id := toString e.next
  (id, { e.setConnection i ((e.connections i).register id now) with next := e.next + 1 })

/-- Delivers an answer to a request that waits on a connection. -/
def complete (e : Exchange) (i : Nat) (id : String) (r : Response) : Bool × Exchange :=
  let (found, c) := (e.connections i).complete id r
  (found, e.setConnection i c)

/-- Gives up the requests on a connection that have waited too long. -/
def cleanup (e : Exchange) (i now timeout : Nat) : List String × Exchange :=
  let (ids, c) := (e.connections i).cleanup now timeout
  (ids, e.setConnection i c)

/-- Gives up every request that waits on a connection. -/
def clear (e : Exchange) (i : Nat) : Nat × Exchange :=
  let (count, c) := (e.connections i).clear
  (count, e.setConnection i c)

/-- The caller of a request on a connection stops looking. -/
def leave (e : Exchange) (i : Nat) (id : String) : Exchange :=
  e.setConnection i ((e.connections i).leave id)

/-- The caller of a request on a connection looks. -/
def look (e : Exchange) (i : Nat) (id : String) : Option Mailbox.Sight × Exchange :=
  let (seen, c) := (e.connections i).look id
  (seen, e.setConnection i c)

end Exchange

end Dashboard.Rpc
