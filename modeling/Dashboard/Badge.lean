import Dashboard.Json.Record
/-!
# Badges

A badge is the short status shown beside a tab's name: a text and one of four styles.
-/

namespace Dashboard

/-- How a badge is drawn. -/
inductive Badge.Style where
  /-- Nothing is known, because every request failed. -/
  | error
  /-- Something is under way. -/
  | running
  /-- Something needs attention. -/
  | warning
  /-- A plain number. -/
  | count
  deriving DecidableEq, Repr

/-- The status of a tab. -/
structure Badge where
  text : String
  style : Badge.Style
  deriving DecidableEq, Repr

namespace Badge

namespace Style

def all : List Style := [error, running, warning, count]

def name : Style → String
  | error => "error"
  | running => "running"
  | warning => "warning"
  | count => "count"

/-- The class of the element that shows the badge. -/
def cssClass (s : Style) : String := "badge-" ++ s.name

def ofName? (name : String) : Option Style := all.find? (·.name == name)

end Style

/-- The badge of a tab that has nothing to show but an error. -/
def failure : Badge := ⟨"!", .error⟩

def ofCount (n : Nat) : Badge := ⟨toString n, .count⟩

def toJson (b : Badge) : Json :=
  .object [("text", .string b.text), ("style", .string b.style.name)]

/-- A badge, or null where there is none. -/
def optionToJson : Option Badge → Json
  | some b => b.toJson
  | none => .null

/-- The badge in a JSON text. -/
def read? (s : String) : Option Badge := do
  let fields ← Json.Fields.read? (fun name => name == "text" || name == "style") s
  guard (fields.noMoreThan 2)
  let text ← (← fields.require? "text" 0).string?
  let style ← Style.ofName? (← (← fields.require? "style" 1).variant?)
  return ⟨text, style⟩

end Badge

end Dashboard
