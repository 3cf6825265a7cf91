import Dashboard.Proofs.FrameAnswers
/-!
# Texts with a method

A text from a daemon may carry a method, alone or beside an id. Texts are told apart by the id only:
one that names a request is taken for its answer, with a method or without.

* `Named` — the request that the id of an object names.
* `Message.read_object` — the objects that are taken for answers, and the replies they tell.
* `Connection.receive_without_method` — a method makes no difference.
* `receive_object` — an object changes nothing unless it names a request that waits and tells a
  reply; then it answers that request and no other.
* `receive_request_under_id` — a request of the daemon under the id of one that waits is taken for
  its answer.
-/

namespace Dashboard.Rpc

open Json (Members)

/-- The id of an object names a request: it is the id of the request or a number with that text. -/
inductive Named (ms : Members) (id : String) : Prop
  | string (hid : ms.find? "id" = some (.string id)) : Named ms id
  | number (n : Number) (hid : ms.find? "id" = some (.number n)) (hn : n.text = id) : Named ms id

variable {ms : Members} {id text : String} {r : Response} {reply : Reply}

/-- An id names a request if it is a string or a number with that text. -/
theorem named_iff : Named ms id ↔ (ms.find? "id").bind idText? = some id := by
  constructor
  · rintro (hid | ⟨n, hid, rfl⟩) <;> simp [hid, idText?]
  · intro h
    obtain ⟨x, hid, hx⟩ := Option.bind_eq_some_iff.mp h
    cases x with
    | string s =>
      cases hx
      exact .string hid
    | number n => exact .number n hid (Option.some.inj hx)
    | _ => cases hx

/-- An id that names a request is present. -/
theorem Named.present (h : Named ms id) : (present? "id" (.object ms)).isSome = true := by
  rcases h with hid | ⟨n, hid, -⟩ <;> simp [present?_eq_some.mpr ⟨hid, by simp⟩]

/-- The objects that are taken for answers: a method is not looked at where there is an id. -/
theorem Message.ofJson_object :
    Message.ofJson (.object ms) = .response r ↔
      (present? "id" (.object ms)).isSome = true ∧ Response.ofJson? (.object ms) = some r := by
  simp only [Message.ofJson]
  split
  case isTrue hid => cases Response.ofJson? (.object ms) <;> simp [hid]
  case isFalse hid => split <;> simp [hid]

/-- An object is taken for the answer to the request it names, if it tells a reply. -/
theorem Message.read_object (hread : Json.read? text = some (.object ms)) :
    (∃ r, Message.read text = .response r ∧ r.id = some id ∧ Reply.ofResult r.outcome = reply) ↔
      Named ms id ∧ Told ms reply := by
  obtain ⟨y, hy⟩ := exists_normal_of_read? hread
  simp only [Message.read, hread, Message.ofJson_object, named_iff]
  constructor
  · rintro ⟨r, ⟨-, hr⟩, hid, hreply⟩
    rw [Response.id_of_ofJson? hr] at hid
    exact ⟨hid, (told_iff hy).mp ⟨r, hr, hreply⟩⟩
  · rintro ⟨hid, htold⟩
    obtain ⟨r, hr, hreply⟩ := (told_iff hy).mpr htold
    exact ⟨r, ⟨(named_iff.mpr hid).present, hr⟩, (Response.id_of_ofJson? hr).trans hid, hreply⟩

namespace Connection

variable {c : Connection}

/-- What is taken for the same answers does the same. -/
theorem receive_congr {text' : String}
    (h : ∀ r, Message.read text = .response r ↔ Message.read text' = .response r) :
    c.receive text = c.receive text' := by
  by_cases hr : ∃ r, Message.read text = .response r
  · obtain ⟨r, hr⟩ := hr
    simp [receive, hr, (h r).mp hr]
  · have hsame : c.receive text = c :=
      receive_of_not_response fun r _ hread => absurd ⟨r, hread⟩ hr
    have hsame' : c.receive text' = c :=
      receive_of_not_response fun r _ hread => absurd ⟨r, (h r).mpr hread⟩ hr
    rw [hsame, hsame']

/-- An object does what it would do without its method. -/
theorem receive_without_method {text' : String} (hread : Json.read? text = some (.object ms))
    (hread' : Json.read? text' = some (.object (ms.filter (·.1 != "method")))) :
    c.receive text = c.receive text' := by
  have hfind (name : String) (hn : name ≠ "method") :
      present? name (.object (ms.filter (·.1 != "method"))) = present? name (.object ms) := by
    simp [present?, Json.member?, Members.find?_filter_ne ms hn]
  have hmember : Json.member? "id" (.object (ms.filter (·.1 != "method"))) =
      Json.member? "id" (.object ms) := Members.find?_filter_ne ms (by decide)
  refine receive_congr fun r => ?_
  simp only [Message.read, hread, hread', Message.ofJson_object, Response.ofJson?_eq, hmember,
    hfind "id" (by decide), hfind "error" (by decide), hfind "result" (by decide)]

/-- What an object does that names a request which waits and tells a reply. -/
theorem receive_named (hread : Json.read? text = some (.object ms))
    (hc : c.ledger.contains id = true) (hid : Named ms id) (ht : Told ms reply) :
    ∃ r : Response, Reply.ofResult r.outcome = reply ∧
      c.receive text =
        { c.mapMailboxes (· == id) (·.deliver r) with ledger := c.ledger.erase id } := by
  obtain ⟨r, hr, hrid, hreply⟩ := (Message.read_object hread).mpr ⟨hid, ht⟩
  exact ⟨{ r with id := none }, hreply, receive_of_waiting hr hrid hc⟩

/-- What is done to one mailbox leaves the others. -/
theorem mailbox?_mapMailboxes_ne {id' : String} (hne : id' ≠ id) (f : Mailbox → Mailbox) :
    (c.mapMailboxes (· == id) f).mailbox? id' = c.mailbox? id' :=
  (c.mailbox?_mapMailboxes (g := fun m => m) fun m => by simp [hne]).trans Option.map_id'

end Connection

/-- What an object does to the requests that wait, with a method or without. It changes nothing
    unless it names a request that waits and tells a reply. If it does, that request waits no longer
    and its caller finds the reply; no other request and no other caller is touched. A method makes
    no difference to any of this. -/
theorem receive_object (c : Connection) (hread : Json.read? text = some (.object ms)) :
    (c.receive text = c ↔
      ∀ id reply, c.ledger.contains id = true → Named ms id → ¬ Told ms reply) ∧
    (∀ id reply, c.ledger.contains id = true → Named ms id → Told ms reply →
      (c.receive text).ledger = c.ledger.erase id ∧
      (c.mailbox? id = some (.empty true) → ∃ r,
        (c.receive text).mailbox? id = some (.holding r) ∧ Reply.ofResult r.outcome = reply) ∧
      ∀ id' ≠ id, (c.receive text).mailbox? id' = c.mailbox? id') ∧
    (∀ text', Json.read? text' = some (.object (ms.filter (·.1 != "method"))) →
      c.receive text = c.receive text') := by
  refine ⟨⟨fun hsame id reply hc hid ht => ?_, fun hn => ?_⟩, fun id reply hc hid ht => ?_,
    fun text' hread' => Connection.receive_without_method hread hread'⟩
  · -- The request would wait no longer.
    obtain ⟨r, -, heq⟩ := Connection.receive_named hread hc hid ht
    have hgone : (c.ledger.erase id).contains id = true := by
      have hledger : (c.receive text).ledger = c.ledger.erase id := by rw [heq]
      rwa [← hledger, hsame]
    exact (Ledger.contains_erase hc).mp hgone rfl
  · rcases c.receive_cases text with heq | ⟨r, id, hr, hid, hc⟩
    · exact heq
    · obtain ⟨hnamed, htold⟩ := (Message.read_object hread).mp ⟨r, hr, hid, rfl⟩
      exact absurd htold (hn id _ hc hnamed)
  · -- The answer goes into the mailbox of that request; the others are as they were.
    obtain ⟨r, hreply, heq⟩ := Connection.receive_named hread hc hid ht
    rw [heq]
    refine ⟨rfl, fun hempty => ⟨r, ?_, hreply⟩, fun id' hne =>
      Connection.mailbox?_mapMailboxes_ne hne _⟩
    refine (c.mailbox?_mapMailboxes (p := (· == id)) (f := (·.deliver r)) fun _ => rfl).trans ?_
    simp [hempty, Mailbox.deliver]

/-- A request of the daemon with a member that is no error, under the id of a request. -/
def oddRequestUnderOne : String :=
  "\x7b\"id\":\"1\",\"method\":\"getJobs\",\"error\":\"odd\",\"result\":5\x7d"

/-- An answer that has a method all the same ends the wait of its request. -/
theorem receive_object_odd_request :
    let c : Connection := ({} : Connection).register "1" 0
    c.ledger.contains "1" = true ∧ c.receive oddRequestUnderOne = c := by
  refine ⟨by decide, ?_⟩
  have hread : Json.read? oddRequestUnderOne = some (.object
      [("error", .string "odd"), ("id", .string "1"), ("method", .string "getJobs"),
        ("result", .nat 5)]) := by
    cbv
  refine (receive_object _ hread).1.mpr fun id reply _ _ ht => ?_
  -- A text is no error object, and it outweighs the result.
  rcases ht with ⟨e, f, he, hf⟩ | ⟨_, he, -⟩ | ⟨he, -⟩
  · cases he
    cases hf
  all_goals rcases he with he | he <;> cases he

/-- A request of the daemon under the id of a request. -/
def requestUnderOne : String :=
  "\x7b\"jsonrpc\":\"2.0\",\"id\":1,\"method\":\"jobsChanged\"\x7d"

/-- A request of the daemon that bears the id of a request that waits ends its wait, and the caller
    finds an answer without a result. -/
theorem receive_request_under_id :
    let c : Connection := ({} : Connection).register "1" 0
    (Json.read? requestUnderOne).bind (Json.member? "method") = some (.string "jobsChanged") ∧
    c.ledger.contains "1" = true ∧ c.mailbox? "1" = some (.empty true) ∧
    (c.receive requestUnderOne).ledger.contains "1" = false ∧
    (c.receive requestUnderOne).mailbox? "1" = some (.holding {}) := by
  have hread : Json.read? requestUnderOne = some (.object
      [("id", .nat 1), ("jsonrpc", .string "2.0"), ("method", .string "jobsChanged")]) := by
    cbv
  have hanswer : Message.read requestUnderOne = .response { id := some "1" } := by
    rw [Message.read, hread]
    rfl
  refine ⟨by rw [hread]; rfl, by decide, rfl, ?_, ?_⟩ <;>
    rw [Connection.receive_of_waiting hanswer rfl (by decide)] <;> rfl

end Dashboard.Rpc
