import Dashboard.Binary64.Reading
import Dashboard.Count
import Dashboard.Json.Basic
import Dashboard.Text.Basic
import Dashboard.Time.Rfc3339
/-!
# Reading what daemons send

A daemon may leave a field out, spell its name in another way, or send a number as text. A field
is therefore read under a list of names, of which the first that has a value counts, and it is
turned into what is asked for as far as it can be.

* `Json.field?` — the value of a field.
* `Json.textOf?`, `Json.countOf?`, `Json.truthOf?`, `Json.instantOf?` — the value as text, count,
  truth value or instant.
* `Json.listOf`, `Json.objectOf?`, `Json.listing` — the items of a list and the members of an object.
-/

namespace Dashboard

/-- The names under which a field may be found. -/
abbrev Aliases := List String

namespace Payload

/-- A value as text. -/
def text? : Json → Option String
  | .string s => some s
  | .number n => some n.text
  | .bool b => some (if b then "true" else "false")
  | _ => none

/-- A value as a count: fractions are dropped, negative numbers are none. -/
def count? : Json → Option Nat
  | .number (.int n) => if 0 ≤ n then some n.toNat else none
  | .number (.float x) => (Reading.finite x).count? Count.max
  | .string s => (readDouble? (Text.trim s)).bind (·.count? Count.max)
  | _ => none

/-- The truth value that a word spells. -/
def spelledTruth? (s : String) : Option Bool :=
  let word := Text.lowerAscii (Text.trim s)
  if ["true", "yes", "1"].contains word then some true
  else if ["false", "no", "0"].contains word then some false
  else none

/-- A value as a truth value. -/
def truth? : Json → Option Bool
  | .bool b => some b
  | .number n => n.signed?.map (· != 0)
  | .string s => spelledTruth? s
  | _ => none

/-- The instant that a text denotes: a time in the notation of RFC 3339, or a number. -/
def spelledInstant? (s : String) : Option Time.Instant :=
  let word := Text.trim s
  match Time.Rfc3339.readInstant? word with
  | some t => some t
  | none => (readInt? word).bind Time.Instant.ofEpoch?

/-- A value as an instant. -/
def instant? : Json → Option Time.Instant
  | .number n => Time.Instant.ofEpoch? n.truncate
  | .string s => spelledInstant? s
  | _ => none

end Payload

namespace Json

/-- The first value other than null under one of the names. -/
def Members.field? (ms : Members) (names : Aliases) : Option Json :=
  (names.filterMap (Members.find? ms)).find? fun x => !x.isNull

/-- The value of a field of an object. -/
def field? (x : Json) (names : Aliases) : Option Json :=
  x.members?.bind fun ms => Members.field? ms names

def textOf? (x : Json) (names : Aliases) : Option String := (x.field? names).bind Payload.text?

def textOr (x : Json) (names : Aliases) (default : String) : String :=
  (x.textOf? names).getD default

/-- A text that is not empty. -/
def wordOf? (x : Json) (names : Aliases) : Option String := (x.textOf? names).filter (· != "")

def countOf? (x : Json) (names : Aliases) : Option Nat := (x.field? names).bind Payload.count?

def countOr (x : Json) (names : Aliases) (default : Nat) : Nat := (x.countOf? names).getD default

def truthOf? (x : Json) (names : Aliases) : Option Bool := (x.field? names).bind Payload.truth?

def truthOr (x : Json) (names : Aliases) (default : Bool) : Bool := (x.truthOf? names).getD default

def instantOf? (x : Json) (names : Aliases) : Option Time.Instant :=
  (x.field? names).bind Payload.instant?

/-- The items of a list, none if the field is no list. -/
def listOf (x : Json) (names : Aliases) : List Json :=
  match x.field? names with
  | some (.array items) => items
  | _ => []

/-- The members of an object. -/
def objectOf? (x : Json) (names : Aliases) : Option Members := (x.field? names).bind members?

/-- The items of a list that may come bare or as a field of an object. -/
def listing (x : Json) (names : Aliases) : List Json :=
  match x with
  | .array items => items
  | _ => x.listOf names

end Json

end Dashboard
