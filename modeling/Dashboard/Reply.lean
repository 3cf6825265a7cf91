import Dashboard.Fault
import Dashboard.Json.Record
import Dashboard.Text.Basic
/-!
# Replies

A reply is the outcome of one call to a daemon: whether it succeeded, the data it brought, and the
reason if it did not. However a call fails, a tab sees a reply.
-/

namespace Dashboard

/-- The outcome of a call. The data are whatever the daemon sent. -/
structure Reply where
  success : Bool
  data : Option Json := none
  error : Option String := none

namespace Reply

/-- A success that brought data. -/
def ok (data : Json) : Reply := { success := true, data := some data }

/-- A success that brought nothing. -/
def done : Reply := { success := true }

def failure (reason : String) : Reply := { success := false, error := some reason }

/-- The reason of a failure; a blank one is as good as none. -/
def reason (r : Reply) : String :=
  match r.error with
  | some e => if Text.isBlankText e then "unknown error" else e
  | none => "unknown error"

/-- The reply for what a request came to. An answer of null brings nothing. -/
def ofResult : Except Fault Json → Reply
  | .ok .null => done
  | .ok data => ok data
  | .error fault => failure fault.message

def toJson (r : Reply) : Json :=
  .object <|
    [("success", .bool r.success)] ++
    (match r.data with | some d => [("data", d)] | none => []) ++
    (match r.error with | some e => [("error", .string e)] | none => [])

/-- The text of a field that may be absent or null. -/
def optionalText? : Option Json → Option (Option String)
  | none => some none
  | some (.string s) => some (some s)
  | some _ => none

/-- The reply in a JSON text. -/
def read? (s : String) : Option Reply := do
  let fields ← Json.Fields.read? (fun name => ["success", "data", "error"].contains name) s
  guard (fields.noMoreThan 3)
  let success ← (← fields.require? "success" 0).bool?
  let data ← fields.optional? "data" 1
  let error ← optionalText? (← fields.optional? "error" 2)
  return { success, data := data.map Json.normal, error }

end Reply

end Dashboard
