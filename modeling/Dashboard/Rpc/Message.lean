import Dashboard.Json.Parser
import Dashboard.Json.Printer
import Dashboard.Json.Record
import Dashboard.Reply
/-!
# JSON-RPC messages

* `Rpc.Request` — a request and its text.
* `Rpc.Response` — an answer that carries the id of its request, and what it comes to.
* `Rpc.Message` — what a text from a daemon is: a response, a notification, or neither.

A text with an id that is not null is a response or nothing, whatever else it holds; only a text
without one can be a notification.
-/

namespace Dashboard.Rpc

/-- A call of a method of a daemon. -/
structure Request where
  id : String
  method : String
  params : Option Json := none

/-- The text of a request. Parameters that are null are written, absent ones are not. -/
def Request.text (r : Request) : String :=
  Json.print <| .object <|
    [("jsonrpc", .string "2.0"), ("id", .string r.id), ("method", .string r.method)] ++
    (match r.params with | some p => [("params", p)] | none => [])

/-- What a daemon reports instead of a result. -/
structure Failure where
  code : Int
  message : String
  data : Option Json := none

/-- An answer to a request. -/
structure Response where
  /-- The id of the request, as text; none if the answer names none that a request could have. -/
  id : Option String := none
  result : Option Json := none
  failure : Option Failure := none

/-- What came from a daemon. -/
inductive Message where
  | response (r : Response)
  | notification (method : String) (params : Option Json)
  | unknown

/-- An id given as a string or as a number. -/
def idText? : Json → Option String
  | .string s => some s
  | .number n => some n.text
  | _ => none

/-- An integer of 64 bits with a sign. -/
def code? : Json → Option Int
  | .number n => n.signed?
  | _ => none

/-- The report of a failure, given as an object or as an array of all three of its fields. -/
def Failure.ofJson? (x : Json) : Option Failure := do
  let fields ← Json.Fields.ofJson? x
  match fields with
  | .items xs => guard (xs.length = 3)
  | .members _ => pure ()
  let code ← code? (← fields.require? "code" 0)
  let message ← (← fields.require? "message" 1).string?
  let data ← fields.optional? "data" 2
  return { code, message, data }

/-- A field of a message; null stands for its absence. -/
def present? (name : String) (x : Json) : Option Json :=
  match x.member? name with
  | some .null => none
  | found => found

/-- The response in an object that has an id. -/
def Response.ofJson? (x : Json) : Option Response := do
  let failure ←
    match present? "error" x with
    | some e => (Failure.ofJson? e).map some
    | none => some none
  return { id := (x.member? "id").bind idText?, result := present? "result" x, failure }

/-- What a value from a daemon is. -/
def Message.ofJson (x : Json) : Message :=
  if (present? "id" x).isSome then
    match Response.ofJson? x with
    | some r => .response r
    | none => .unknown
  else
    match x.member? "method" with
    | some (.string method) => .notification method (present? "params" x)
    | _ => .unknown

/-- What a text from a daemon is. -/
def Message.read (text : String) : Message :=
  match Json.read? text with
  | some x => ofJson x
  | none => .unknown

/-- What the answer to a request comes to: a reported failure outweighs a result, and the absence of
    both is null. -/
def Response.outcome (r : Response) : Except Fault Json :=
  match r.failure with
  | some f => .error (.remote (f.message ++ " (code " ++ toString f.code ++ ")"))
  | none => .ok (r.result.getD .null)

end Dashboard.Rpc
