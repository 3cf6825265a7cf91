import Dashboard.Binary64.Shortest
import Dashboard.Count
/-!
# JSON values

* `Json` — a JSON value. The members of an object stand in the order in which they are written.
* `Json.member?` — the value of a member.
* `Json.normal` — the same value with the members of every object sorted by name and, of members
  with one name, the last one kept.
* `Json.doubles` — the doubles in a value.
-/

namespace Dashboard

/-- A JSON number: an integer that 64 bits hold, signed or unsigned, or a finite double. -/
inductive Number where
  | int (value : Int)
  | float (value : Binary64)
  deriving DecidableEq, Repr

/-- A JSON value. -/
inductive Json where
  | null
  | bool (value : Bool)
  | number (value : Number)
  | string (value : String)
  | array (items : List Json)
  | object (members : List (String × Json))
  deriving Repr, Inhabited

namespace Number

/-- The text of a number. -/
def text : Number → String
  | int n => toString n
  | float x => x.text

/-- The number as a count, if it is a nonnegative integer. -/
def count? : Number → Option Nat
  | int n => if 0 ≤ n then some n.toNat else none
  | float _ => none

/-- The number as an integer of 64 bits with a sign. -/
def signed? : Number → Option Int
  | int n => if n < Count.signedBound then some n else none
  | float _ => none

/-- The number with its fraction dropped. -/
def truncate : Number → Int
  | int n => n
  | float x => x.truncate

end Number

namespace Json

/-- Members of an object. -/
abbrev Members := List (String × Json)

/-- An integer. -/
def int (n : Int) : Json := number (.int n)

/-- A count. -/
def nat (n : Nat) : Json := number (.int n)

def isNull : Json → Bool
  | null => true
  | _ => false

/-- The members of an object. -/
def members? : Json → Option Members
  | object ms => some ms
  | _ => none

/-- The value of the first member with a name. -/
def Members.find? (ms : Members) (name : String) : Option Json :=
  (List.find? (fun m => m.1 == name) ms).map (·.2)

/-- The value of a member of an object; a value of another kind has none. -/
def member? (name : String) : Json → Option Json
  | object ms => Members.find? ms name
  | _ => none

/-- Puts a member into a list that is sorted by name, in place of one with the same name. -/
def Members.put (name : String) (value : Json) : Members → Members
  | [] => [(name, value)]
  | (n, v) :: rest =>
    if name = n then (name, value) :: rest
    else if name < n then (name, value) :: (n, v) :: rest
    else (n, v) :: Members.put name value rest

/-- Members sorted by name; of members with one name the last one counts. -/
def Members.sorted (ms : Members) : Members :=
  ms.foldl (fun acc m => Members.put m.1 m.2 acc) []

mutual

/-- The value with the members of every object sorted by name. -/
def normal : Json → Json
  | null => null
  | bool b => bool b
  | number n => number n
  | string s => string s
  | array items => array (normalItems items)
  | object ms => object (Members.sorted (normalMembers ms))

def normalItems : List Json → List Json
  | [] => []
  | x :: rest => normal x :: normalItems rest

def normalMembers : List (String × Json) → List (String × Json)
  | [] => []
  | (name, x) :: rest => (name, normal x) :: normalMembers rest

end

mutual

/-- The doubles that stand anywhere in a value. -/
def doubles : Json → List Binary64
  | number (.float x) => [x]
  | array items => doublesOfItems items
  | object ms => doublesOfMembers ms
  | _ => []

def doublesOfItems : List Json → List Binary64
  | [] => []
  | x :: rest => doubles x ++ doublesOfItems rest

def doublesOfMembers : List (String × Json) → List Binary64
  | [] => []
  | (_, x) :: rest => doubles x ++ doublesOfMembers rest

end

end Json

end Dashboard
