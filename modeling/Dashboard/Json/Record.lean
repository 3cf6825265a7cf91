import Dashboard.Json.Parser
/-!
# Records in JSON text

A record with fixed fields is written as an object or as an array of the fields in order. Members
of an object that are no fields are passed over: only their form is checked, not how deep they nest,
nor whether their numbers fit a double.

* `Grammar.skim?` — passes over a value.
* `Fields` — what is known of a record: its members, or its items in order.
* `Fields.read?` — the fields of a text, `Fields.ofJson?` — the fields of a value.
-/

namespace Dashboard.Json

namespace Grammar

/-- Passes over a string after its opening quote. -/
def skimString? (cs : List Char) : Option (List Char) :=
  (pieces? cs).map (·.2)

/-- Passes over a number after its minus sign if it has one. -/
def skimNumber? (cs : List Char) : Option (List Char) := do
  let (_, cs) ← whole? cs
  let (_, cs) ← fraction? cs
  let (_, cs) ← exponent? cs
  return cs

mutual

/-- Passes over a value. The first argument bounds the number of steps. -/
def skim? : Nat → List Char → Option (List Char)
  | 0, _ => none
  | steps + 1, cs =>
    match skipSpace cs with
    | 'n' :: 'u' :: 'l' :: 'l' :: rest => some rest
    | 't' :: 'r' :: 'u' :: 'e' :: rest => some rest
    | 'f' :: 'a' :: 'l' :: 's' :: 'e' :: rest => some rest
    | '"' :: rest => skimString? rest
    | '-' :: rest => skimNumber? rest
    | '[' :: rest =>
      match skipSpace rest with
      | ']' :: rest => some rest
      | rest => skimItems? steps rest
    | '\x7b' :: rest =>
      match skipSpace rest with
      | '\x7d' :: rest => some rest
      | rest => skimMembers? steps rest
    | rest => skimNumber? rest

def skimItems? : Nat → List Char → Option (List Char)
  | 0, _ => none
  | steps + 1, cs =>
    match (skim? steps cs).map skipSpace with
    | some (',' :: rest) => skimItems? steps rest
    | some (']' :: rest) => some rest
    | _ => none

def skimMembers? : Nat → List Char → Option (List Char)
  | 0, _ => none
  | steps + 1, cs =>
    match skipSpace cs with
    | '"' :: rest =>
      match (skimString? rest).map skipSpace with
      | some (':' :: rest) =>
        match (skim? steps rest).map skipSpace with
        | some (',' :: rest) => skimMembers? steps rest
        | some ('\x7d' :: rest) => some rest
        | _ => none
      | _ => none
    | _ => none

end

/-- The members of an object that is not empty, up to its closing brace, without those that
    `keep` does not name. -/
def record? (keep : String → Bool) (depth : Nat) :
    Nat → List Char → Option (List (String × Json) × List Char)
  | 0, _ => none
  | steps + 1, cs => do
    let '"' :: cs := skipSpace cs | none
    let (name, cs) ← string? cs
    let ':' :: cs := skipSpace cs | none
    let (found, cs) ←
      if keep name then
        (value? (stepsFor cs) depth cs).map fun (x, cs) => ([(name, x)], cs)
      else (skim? (stepsFor cs) cs).map fun cs => ([], cs)
    match skipSpace cs with
    | ',' :: cs => (record? keep depth steps cs).map fun (ms, cs) => (found ++ ms, cs)
    | '\x7d' :: cs => some (found, cs)
    | _ => none

end Grammar

/-- The fields of a record as they are given. -/
inductive Fields where
  | members (ms : Members)
  | items (xs : List Json)

namespace Fields

open Grammar

/-- The fields in a text; members that `keep` does not name are passed over. -/
def read? (keep : String → Bool) (s : String) : Option Fields := do
  let (fields, rest) ←
    match skipSpace s.toList with
    | '\x7b' :: cs =>
      match skipSpace cs with
      | '\x7d' :: cs => some (members [], cs)
      | cs => (record? keep (depthLimit - 1) (stepsFor cs) cs).map fun (ms, cs) => (members ms, cs)
    | cs =>
      match value? (stepsFor cs) depthLimit cs with
      | some (.array xs, cs) => some (items xs, cs)
      | _ => none
  guard (skipSpace rest).isEmpty
  return fields

/-- The fields in a value. -/
def ofJson? : Json → Option Fields
  | .object ms => some (members ms)
  | .array xs => some (items xs)
  | _ => none

/-- The value of the field with a name and a place, none in the option if it is absent. A field
    that is given twice is refused. -/
def get? (fields : Fields) (name : String) (place : Nat) : Option (Option Json) :=
  match fields with
  | members ms =>
    match ms.filter (·.1 == name) with
    | [] => some none
    | [(_, x)] => some (some x)
    | _ => none
  | items xs => some xs[place]?

/-- A record of `count` fields has no further items. -/
def noMoreThan (count : Nat) : Fields → Bool
  | members _ => true
  | items xs => xs.length ≤ count

/-- Whether the fields are given by their order. -/
def inOrder : Fields → Bool
  | members _ => false
  | items _ => true

end Fields

/-- A string. -/
def string? : Json → Option String
  | .string s => some s
  | _ => none

/-- A truth value. -/
def bool? : Json → Option Bool
  | .bool b => some b
  | _ => none

/-- A field that must be there. -/
def Fields.require? (fields : Fields) (name : String) (place : Nat) : Option Json := do
  (← fields.get? name place)

/-- A field that may be absent or null. -/
def Fields.optional? (fields : Fields) (name : String) (place : Nat) : Option (Option Json) := do
  match ← fields.get? name place with
  | some .null => return none
  | found => return found

/-- One of a fixed set of names, written as a string or as an object with that name and null. -/
def variant? (x : Json) : Option String :=
  match x with
  | .string s => some s
  | .object [(s, .null)] => some s
  | _ => none

end Dashboard.Json
