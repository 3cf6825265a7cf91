import Dashboard.Proofs.JsonMembers
import Dashboard.Proofs.NumberText
import Dashboard.Rpc.Ledger
import Mathlib
/-!
# Which texts answer a request

A text from a daemon ends the wait of the one request it names and says what the reply is, whichever
way the id is given and whatever else the text holds.

* `Failure.Given`, `Told`, `AnswersTo` — what the members of a text say, read off its JSON value.
* `idText?_eq_some` — the ids that name a request.
* `Failure.ofJson?_eq_some`, `told_iff`, `answersTo_iff` — what is understood is what is said.
* `Connection.receive_of_waiting`, `Connection.receive_other` — what a text does to the request it
  names and to any other.
* `receive_answers` — all of it together.
-/

namespace Dashboard.Rpc

open Json (Members)

/-! ### What a text says -/

/-- A failure is given by its members or by its three items in order. The code fits 64 bits with a
    sign; data of null are none. -/
inductive Failure.Given (f : Failure) : Json → Prop
  | members (ms : Members) (hc : ms.find? "code" = some (.int f.code))
    (hb : f.code < Count.signedBound) (hm : ms.find? "message" = some (.string f.message))
    (hd : f.data = present? "data" (.object ms)) : f.Given (.object ms)
  | items (data : Json) (hb : f.code < Count.signedBound)
    (hd : f.data = if data.isNull then none else some data) :
    f.Given (.array [.int f.code, .string f.message, data])

/-- The reply that the members of an answer tell. An error outweighs a result. -/
inductive Told (ms : Members) : Reply → Prop
  | failure (e : Json) (f : Failure) (he : ms.find? "error" = some e) (hf : f.Given e) :
    Told ms (.failure
      ("Daemon returned an error: " ++ f.message ++ " (code " ++ toString f.code ++ ")"))
  | ok (x : Json) (he : ms.find? "error" = none ∨ ms.find? "error" = some .null)
    (hr : ms.find? "result" = some x) (hx : x ≠ .null) : Told ms (.ok x)
  | done (he : ms.find? "error" = none ∨ ms.find? "error" = some .null)
    (hr : ms.find? "result" = none ∨ ms.find? "result" = some .null) : Told ms .done

/-- A text answers a request with a reply. The id is a string or an integer. -/
def AnswersTo (text : String) (k : UInt64) (reply : Reply) : Prop :=
  ∃ ms : Members, Json.read? text = some (.object ms) ∧
    (ms.find? "id" = some (.string (toString k)) ∨ ms.find? "id" = some (.nat k.toNat)) ∧
    Told ms reply

/-! ### What is understood -/

variable {ms : Members} {name : String} {x y : Json} {f : Failure} {r : Response} {reply : Reply}

/-- What is present is given, and is not null. -/
theorem present?_eq_some :
    present? name (.object ms) = some x ↔ ms.find? name = some x ∧ x ≠ .null := by
  simp only [present?, Json.member?]
  cases hf : ms.find? name with
  | none => simp
  | some v => cases v <;> simp <;> rintro rfl <;> simp

/-- What is not present is not given, or is null. -/
theorem present?_eq_none :
    present? name (.object ms) = none ↔ ms.find? name = none ∨ ms.find? name = some .null := by
  simp only [present?, Json.member?]
  cases hf : ms.find? name with
  | none => simp
  | some v => cases v <;> simp

/-- The ids that name a request are its text and its number. -/
theorem idText?_eq_some {k : UInt64} :
    idText? x = some (toString k) ↔ x = .string (toString k) ∨ x = .nat k.toNat := by
  cases x with
  | number n =>
    have hn : n.text = toString k.toNat ↔ n = .int k.toNat := Number.text_eq_iff
    simpa [idText?, Json.nat, toString_uint64] using hn
  | string s => simp [idText?, Json.nat]
  | _ => simp [idText?, Json.nat]

/-- A code is an integer of 64 bits with a sign. -/
theorem code?_eq_some {z : Int} : code? x = some z ↔ x = .int z ∧ z < Count.signedBound := by
  cases x with
  | number n =>
    cases n with
    | int m => simp [code?, Number.signed?, Json.int]; grind
    | float v => simp [code?, Number.signed?, Json.int]
  | _ => simp [code?, Json.int]

theorem string?_eq_some {s : String} : x.string? = some s ↔ x = .string s := by
  cases x <;> simp [Json.string?]

/-- Of members with distinct names, one that may be missing is always read. -/
theorem optional?_members (hn : (ms.map (·.1)).Nodup) (name : String) (place : Nat) :
    (Json.Fields.members ms).optional? name place = some (present? name (.object ms)) := by
  simp only [Json.Fields.optional?, Json.Fields.get?_members hn, present?, Json.member?]
  cases ms.find? name with
  | none => rfl
  | some v => cases v <;> rfl

/-- A failure from its fields, wherever they were found. -/
def Failure.assemble? (code message : Option Json) (data : Option Json) : Option Failure := do
  let code ← code? (← code)
  let message ← (← message).string?
  return { code, message, data }

/-- A failure is put together from a code, a message and any data. -/
theorem Failure.assemble?_eq_some {code message : Option Json} {data : Option Json} :
    assemble? code message data = some f ↔
      code = some (.int f.code) ∧ f.code < Count.signedBound ∧
        message = some (.string f.message) ∧ f.data = data := by
  obtain ⟨c, m, d⟩ := f
  cases code with
  | none => simp [assemble?]
  | some x =>
    cases message with
    | none => simp [assemble?]
    | some y =>
      simp only [assemble?, Option.bind_eq_bind, Option.bind_some, Option.pure_def,
        Option.bind_eq_some_iff, code?_eq_some, string?_eq_some, Option.some.injEq,
        Failure.mk.injEq]
      constructor
      · rintro ⟨_, ⟨rfl, hb⟩, _, rfl, rfl, rfl, rfl⟩
        exact ⟨rfl, hb, rfl, rfl⟩
      · rintro ⟨rfl, hb, rfl, rfl⟩
        exact ⟨_, ⟨rfl, hb⟩, _, rfl, rfl, rfl, rfl⟩

/-- A failure that is given by members. -/
theorem Failure.ofJson?_members (hn : (ms.map (·.1)).Nodup) :
    Failure.ofJson? (.object ms) = some f ↔ f.Given (.object ms) := by
  have hread : Failure.ofJson? (.object ms) =
      assemble? (ms.find? "code") (ms.find? "message") (present? "data" (.object ms)) := by
    simp [ofJson?, assemble?, Json.Fields.ofJson?, Json.Fields.require?, optional?_members hn,
      Json.Fields.get?_members hn]
  rw [hread, assemble?_eq_some]
  constructor
  · rintro ⟨hc, hb, hm, hd⟩
    exact .members ms hc hb hm hd
  · rintro (⟨_, hc, hb, hm, hd⟩ | _)
    exact ⟨hc, hb, hm, hd⟩

/-- A failure that is given by items. -/
theorem Failure.ofJson?_items {xs : List Json} :
    Failure.ofJson? (.array xs) = some f ↔ f.Given (.array xs) := by
  by_cases hl : xs.length = 3
  · obtain ⟨code, message, data, rfl⟩ : ∃ a b c, xs = [a, b, c] :=
      match xs, hl with
      | [a, b, c], _ => ⟨a, b, c, rfl⟩
    -- Three items are the code, the message and the data.
    have hread : Failure.ofJson? (.array [code, message, data]) =
        assemble? (some code) (some message) (if data.isNull then none else some data) := by
      cases data <;> rfl
    rw [hread, assemble?_eq_some]
    constructor
    · rintro ⟨hc, hb, hm, hd⟩
      cases hc
      cases hm
      exact .items data hb hd
    · rintro (_ | ⟨_, hb, hd⟩)
      exact ⟨rfl, hb, rfl, hd⟩
  · -- A list of another length gives no failure.
    have hnone : Failure.ofJson? (.array xs) = none := by
      simp only [Failure.ofJson?, Json.Fields.ofJson?, Option.bind_eq_bind, Option.bind_some, guard,
        if_neg hl]
      rfl
    rw [hnone]
    constructor
    · rintro ⟨⟩
    · rintro (_ | _)
      exact absurd rfl hl

/-- What is understood as a failure is what gives one. -/
theorem Failure.ofJson?_eq_some (y : Json) :
    Failure.ofJson? y.normal = some f ↔ f.Given y.normal := by
  cases hx : y.normal with
  | object ms => exact Failure.ofJson?_members (Json.ascending_of_normal hx).nodup
  | array xs => exact Failure.ofJson?_items
  | _ => exact ⟨fun h => (nomatch h), fun h => (nomatch h)⟩

/-- The id and the result of a response do not depend on what failure it reports. -/
theorem Response.ofJson?_eq (x : Json) :
    Response.ofJson? x =
      (match present? "error" x with
        | some e => (Failure.ofJson? e).map some
        | none => some none).map fun failure =>
          { id := (x.member? "id").bind idText?, result := present? "result" x, failure } := by
  simp only [Response.ofJson?]
  cases present? "error" x with
  | none => rfl
  | some e => cases hf : Failure.ofJson? e <;> simp [hf]

/-- The outcome of a response that reports no failure. -/
theorem ofResult_ok (result : Option Json) :
    Reply.ofResult (.ok (result.getD .null)) =
      match result with
      | none | some .null => .done
      | some x => .ok x := by
  cases result with
  | none => rfl
  | some x => cases x <;> rfl

/-- The outcome of a response that reports a failure tells the message and the code. -/
theorem ofResult_failure (r : Response) (hr : r.failure = some f) :
    Reply.ofResult r.outcome = .failure
      ("Daemon returned an error: " ++ f.message ++ " (code " ++ toString f.code ++ ")") := by
  rw [Response.outcome, hr]
  show Reply.failure
    ("Daemon returned an error: " ++ (f.message ++ " (code " ++ toString f.code ++ ")")) = _
  simp only [String.append_assoc]

/-- Where an error is present, the reply is the failure it tells, if it is well-formed. -/
theorem told_iff_of_failure {e y : Json} (hy : y.normal = .object ms)
    (he : present? "error" (.object ms) = some e) :
    (∃ r, Response.ofJson? (.object ms) = some r ∧ Reply.ofResult r.outcome = reply) ↔
      Told ms reply := by
  obtain ⟨hfind, hnull⟩ := present?_eq_some.mp he
  obtain ⟨z, rfl⟩ := Json.exists_normal_of_find? hy hfind
  simp only [Response.ofJson?_eq, he, Option.map_map]
  constructor
  · rintro ⟨r, hr, rfl⟩
    obtain ⟨f, hf, rfl⟩ := Option.map_eq_some_iff.mp hr
    rw [ofResult_failure _ rfl]
    exact .failure _ f hfind (Failure.ofJson?_eq_some z |>.mp hf)
  · rintro (⟨e, f, he', hf⟩ | ⟨_, he', -⟩ | ⟨he', -⟩)
    · cases hfind.symm.trans he'
      exact ⟨_, by rw [(Failure.ofJson?_eq_some z).mpr hf]; rfl, ofResult_failure _ rfl⟩
    -- Other replies are told only where there is no error.
    all_goals
      rw [present?_eq_none.mpr he'] at he
      cases he

/-- Where no error is present, the reply is the result, or that the request is done. -/
theorem told_iff_of_none (he : present? "error" (.object ms) = none) :
    (∃ r, Response.ofJson? (.object ms) = some r ∧ Reply.ofResult r.outcome = reply) ↔
      Told ms reply := by
  have hnone := present?_eq_none.mp he
  have hout := ofResult_ok (present? "result" (.object ms))
  simp only [Response.ofJson?_eq, he, Option.map_some]
  constructor
  · rintro ⟨r, hr, rfl⟩
    cases hr
    show Told ms (Reply.ofResult (.ok ((present? "result" (.object ms)).getD .null)))
    rw [hout]
    cases hres : present? "result" (.object ms) with
    | none => exact .done hnone (present?_eq_none.mp hres)
    | some x =>
      obtain ⟨hfind, hx⟩ := present?_eq_some.mp hres
      cases x <;> first | exact absurd rfl hx | exact .ok _ hnone hfind hx
  · -- What the members tell is what the response comes to.
    intro ht
    refine ⟨_, rfl, hout.trans ?_⟩
    rcases ht with ⟨e, f, he', hf⟩ | ⟨x, -, hfind, hx⟩ | ⟨-, hres⟩
    · -- An error of null gives no failure.
      rcases hnone with hn | hn <;> cases hn.symm.trans he'
      cases hf
    · rw [present?_eq_some.mpr ⟨hfind, hx⟩]
      cases x <;> first | exact absurd rfl hx | rfl
    · rw [present?_eq_none.mpr hres]

/-- The reply that a response comes to is the one its members tell. -/
theorem told_iff {y : Json} (hy : y.normal = .object ms) :
    (∃ r, Response.ofJson? (.object ms) = some r ∧ Reply.ofResult r.outcome = reply) ↔
      Told ms reply := by
  cases he : present? "error" (.object ms) with
  | some e => exact told_iff_of_failure hy he
  | none => exact told_iff_of_none he

/-! ### What a text does -/

/-- What is read from a text has its members in order, each name once. -/
theorem exists_normal_of_read? {text : String} (hread : Json.read? text = some x) :
    ∃ y : Json, y.normal = x :=
  let ⟨y, _, hy⟩ := Option.map_eq_some_iff.mp hread
  ⟨y, hy⟩

/-- The id of a response is the one that its text gives. -/
theorem Response.id_of_ofJson? (hr : Response.ofJson? x = some r) :
    r.id = (x.member? "id").bind idText? := by
  rw [Response.ofJson?_eq] at hr
  obtain ⟨failure, -, rfl⟩ := Option.map_eq_some_iff.mp hr
  rfl

/-- What is read as a response, of the values without a method. -/
theorem Message.ofJson_eq_response (hm : x.member? "method" = none) :
    Message.ofJson x = .response r ↔
      (present? "id" x).isSome = true ∧ Response.ofJson? x = some r := by
  simp only [Message.ofJson, hm]
  split
  case isTrue hid => cases Response.ofJson? x <;> simp [hid]
  case isFalse hid => simp [hid]

/-- What answers a request is a response under its id. -/
theorem answersTo_iff {text : String} {k : UInt64}
    (hm : (Json.read? text).bind (Json.member? "method") = none) :
    AnswersTo text k reply ↔
      ∃ r, Message.read text = .response r ∧ r.id = some (toString k) ∧
        Reply.ofResult r.outcome = reply := by
  simp only [AnswersTo, Message.read]
  cases hread : Json.read? text with
  | none => simp
  | some x =>
    rw [hread, Option.bind_some] at hm
    obtain ⟨y, hy⟩ := exists_normal_of_read? hread
    simp only [Option.some.injEq, Message.ofJson_eq_response hm]
    constructor
    · rintro ⟨ms, rfl, hid, ht⟩
      obtain ⟨r, hr, hout⟩ := (told_iff hy).mpr ht
      obtain ⟨v, hv, hname⟩ : ∃ v, ms.find? "id" = some v ∧
          (v = .string (toString k) ∨ v = .nat k.toNat) := by
        rcases hid with hid | hid
        · exact ⟨_, hid, .inl rfl⟩
        · exact ⟨_, hid, .inr rfl⟩
      -- An id that names a request is not null, so the text is taken for a response.
      have hv' : v ≠ .null := by rcases hname with rfl | rfl <;> simp [Json.nat]
      refine ⟨r, ⟨?_, hr⟩, ?_, hout⟩
      · simp [present?_eq_some.mpr ⟨hv, hv'⟩]
      · rw [Response.id_of_ofJson? hr, Json.member?, hv, Option.bind_some]
        exact idText?_eq_some.mpr hname
    · rintro ⟨r, ⟨-, hr⟩, hid, hout⟩
      rw [Response.id_of_ofJson? hr] at hid
      obtain ⟨v, hv, hname⟩ := Option.bind_eq_some_iff.mp hid
      -- Only an object has an id.
      cases x with
      | object ms =>
        refine ⟨ms, rfl, ?_, (told_iff hy).mp ⟨r, hr, hout⟩⟩
        rw [Json.member?] at hv
        rw [hv, Option.some.injEq, Option.some.injEq]
        exact idText?_eq_some.mp hname
      | _ => cases hv

namespace Connection

variable {c : Connection} {text : String}

/-- A response completes the request under its id, without the id. -/
theorem receive_of_response {id : String} (hr : Message.read text = .response r)
    (hid : r.id = some id) : c.receive text = (c.complete id { r with id := none }).2 := by
  simp [receive, hr, hid]

/-- A text that names no request changes nothing. -/
theorem receive_of_not_response (hn : ∀ r id, Message.read text = .response r → r.id ≠ some id) :
    c.receive text = c := by
  simp only [receive]
  cases hr : Message.read text with
  | response r =>
    cases hid : r.id with
    | none => simp only [hid]
    | some id => exact absurd hid (hn r id hr)
  | _ => rfl

/-- An answer to a request that waits. -/
theorem receive_of_waiting {id : String} (hr : Message.read text = .response r)
    (hid : r.id = some id) (hc : c.ledger.contains id = true) :
    c.receive text =
      { c.mapMailboxes (· == id) (·.deliver { r with id := none }) with
        ledger := c.ledger.erase id } := by
  rw [receive_of_response hr hid]
  simp [complete, hc]

/-- Either a text changes nothing or it answers one request that waits. -/
theorem receive_cases (c : Connection) (text : String) :
    c.receive text = c ∨
    ∃ r id, Message.read text = .response r ∧ r.id = some id ∧ c.ledger.contains id = true := by
  by_cases hr : ∃ r id, Message.read text = .response r ∧ r.id = some id
  · obtain ⟨r, id, hr, hid⟩ := hr
    by_cases hc : c.ledger.contains id = true
    · exact .inr ⟨r, id, hr, hid, hc⟩
    · refine .inl ?_
      rw [receive_of_response hr hid]
      simp [complete, hc]
  · exact .inl (receive_of_not_response fun r id hr' hid => hr ⟨r, id, hr', hid⟩)

end Connection

/-- A ledger has at most one request under an id. -/
theorem Ledger.size_le_erase (l : Ledger) (id : String) : l.size ≤ (l.erase id).size + 1 := by
  obtain ⟨waiting, distinct⟩ := l
  simp only [size, erase]
  induction waiting with
  | nil => simp
  | cons w waiting ih =>
    obtain ⟨hw, hrest⟩ := List.nodup_cons.mp distinct
    by_cases heq : w.id = id
    · -- No other request waits under this id.
      have hself : waiting.filter (·.id != id) = waiting := by
        refine List.filter_eq_self.mpr fun w' hw' => ?_
        have hne : w'.id ≠ w.id := fun h => hw (List.mem_map.mpr ⟨w', hw', h⟩)
        simpa [← heq] using hne
      simp [heq, hself]
    · have := ih hrest
      simpa [List.filter_cons, heq] using this

/-- Of the requests that wait, only the one that is erased no longer does. -/
theorem Ledger.contains_erase {l : Ledger} {id id' : String} (hl : l.contains id = true) :
    (l.erase id').contains id = true ↔ id' ≠ id := by
  obtain ⟨since, hw⟩ := contains_iff.mp hl
  rw [contains_iff]
  constructor
  · rintro ⟨since, hw⟩ rfl
    exact (mem_erase.mp hw).2 rfl
  · exact fun hne => ⟨since, mem_erase.mpr ⟨hw, Ne.symm hne⟩⟩

/-- No text ends more than one wait. -/
theorem Connection.ledger_receive (c : Connection) (text : String) :
    (c.receive text).ledger.waiting.Sublist c.ledger.waiting ∧
    c.ledger.size ≤ (c.receive text).ledger.size + 1 := by
  rcases c.receive_cases text with heq | ⟨r, id, hr, hid, hc⟩
  · rw [heq]
    exact ⟨List.Sublist.refl _, Nat.le_succ _⟩
  · rw [receive_of_waiting hr hid hc]
    exact ⟨List.filter_sublist, c.ledger.size_le_erase id⟩

/-- A text that does not answer a request leaves it as it is. -/
theorem Connection.receive_other {c : Connection} {text id : String}
    (hc : c.ledger.contains id = true)
    (hn : ∀ r, Message.read text = .response r → r.id ≠ some id) :
    (c.receive text).ledger.contains id = true ∧
      (c.receive text).mailbox? id = c.mailbox? id := by
  rcases c.receive_cases text with heq | ⟨r, id', hr, hid, hc'⟩
  · rw [heq]
    exact ⟨hc, rfl⟩
  · have hne : id' ≠ id := by
      rintro rfl
      exact hn r hr hid
    rw [receive_of_waiting hr hid hc']
    refine ⟨(Ledger.contains_erase hc).mpr hne, ?_⟩
    refine (c.mailbox?_mapMailboxes (p := (· == id')) (f := (·.deliver { r with id := none }))
      (g := fun m => m) fun m => by simp [hne.symm]).trans Option.map_id'

/-- What a text that is no object with a method does to the request `k` that waits: its caller gets
    a reply exactly if the text is an answer to `k`, and the reply is the one the answer tells; any
    other text leaves it waiting. No text ends more than one wait. -/
theorem receive_answers (c : Connection) (k : UInt64) (text : String)
    (hk : c.ledger.contains (toString k) = true)
    (hm : (Json.read? text).bind (Json.member? "method") = none) :
    (c.mailbox? (toString k) = some (.empty true) → ∀ reply,
      ((∃ r, (c.receive text).mailbox? (toString k) = some (.holding r) ∧
        Reply.ofResult r.outcome = reply) ↔ AnswersTo text k reply)) ∧
    ((c.receive text).ledger.contains (toString k) = true ↔
      ∀ reply, ¬ AnswersTo text k reply) ∧
    ((∀ reply, ¬ AnswersTo text k reply) →
      (c.receive text).mailbox? (toString k) = c.mailbox? (toString k)) ∧
    (c.receive text).ledger.waiting.Sublist c.ledger.waiting ∧
    c.ledger.size ≤ (c.receive text).ledger.size + 1 := by
  by_cases hr : ∃ r, Message.read text = .response r ∧ r.id = some (toString k)
  · obtain ⟨r, hr, hid⟩ := hr
    have hans (reply : Reply) : AnswersTo text k reply ↔ Reply.ofResult r.outcome = reply := by
      simp [answersTo_iff hm, hr, hid]
    have heq := Connection.receive_of_waiting hr hid hk
    refine ⟨fun hempty reply => ?_, ?_, fun hn => ?_, c.ledger_receive text⟩
    · have hbox : (c.receive text).mailbox? (toString k) =
          some (.holding { r with id := none }) := by
        rw [heq]
        refine (c.mailbox?_mapMailboxes (p := (· == toString k))
          (f := (·.deliver { r with id := none })) fun _ => rfl).trans ?_
        simp [hempty, Mailbox.deliver]
      -- The answer arrives without its id, which its outcome does not depend on.
      rw [hbox, hans]
      simp [Response.outcome]
    · have hgone : ¬ (c.receive text).ledger.contains (toString k) = true := by
        rw [heq]
        exact fun hc => (Ledger.contains_erase hk).mp hc rfl
      exact iff_of_false hgone fun hn => hn _ ((hans _).mpr rfl)
    · exact absurd ((hans _).mpr rfl) (hn _)
  · have hans (reply : Reply) : ¬ AnswersTo text k reply := by
      rw [answersTo_iff hm]
      rintro ⟨r, hread, hid, -⟩
      exact hr ⟨r, hread, hid⟩
    obtain ⟨hwait, hbox⟩ :=
      Connection.receive_other hk fun r hread hid => hr ⟨r, hread, hid⟩
    refine ⟨fun hempty reply => iff_of_false ?_ (hans reply), iff_of_true hwait hans,
      fun _ => hbox, c.ledger_receive text⟩
    rw [hbox, hempty]
    rintro ⟨r, ⟨⟩, -⟩

/-- An answer with an integer as its id and with a failure that is given by its items, beside a
    result. -/
def failureToSeven : String :=
  "\x7b\"id\":7,\"error\":[-3,\"no such job\",null],\"result\":true\x7d"

/-- An answer by the integer 7 with a failure given by its items tells the failure, not the
    result. -/
theorem receive_answers_seven :
    AnswersTo failureToSeven 7
      (.failure "Daemon returned an error: no such job (code -3)") := by
  let c : Connection := ({} : Connection).register "7" 0
  have hk : c.ledger.contains (toString (7 : UInt64)) = true := by decide
  have hread : Json.read? failureToSeven = some (.object
      [("error", .array [.int (-3), .string "no such job", .null]), ("id", .nat 7),
        ("result", .bool true)]) := by
    cbv
  have hm : (Json.read? failureToSeven).bind (Json.member? "method") = none := by
    rw [hread]
    decide
  refine ((receive_answers c 7 failureToSeven hk hm).1 rfl _).mp ?_
  have hanswer : Message.read failureToSeven = .response
      { id := some "7"
        result := some (.bool true)
        failure := some { code := -3, message := "no such job" } } := by
    rw [Message.read, hread]
    rfl
  rw [Connection.receive_of_waiting hanswer rfl hk]
  exact ⟨_, rfl, rfl⟩

end Dashboard.Rpc
