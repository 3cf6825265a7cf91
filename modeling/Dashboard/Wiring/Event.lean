import Dashboard.Markup.Element
import Dashboard.Wiring.Binding
/-!
# What an event sends

The handler of an event looks the action of the element up in the bindings of its tab, and posts the
message that the binding builds from the element.

* `Element.fires` — the events that a user causes on an element.
* `Wiring.Gesture`, `Element.Allows` — what a user can leave in an element.
* `Wiring.Post.message` — the message that is posted.
-/

namespace Dashboard

/-- What a user has left in an element when an event comes. -/
structure Wiring.Gesture where
  value : String
  checked : Bool

namespace Markup.Element

open Wiring

variable {ρ : Type} (e : Element ρ)

/-- The events that a user causes on an element. -/
def fires : List Trigger :=
  match e.tag with
  | .button | .tr | .td | .li => [.click]
  | .select => [.change]
  | .input =>
    match e.attribute? "type" with
    | some "checkbox" => [.change]
    | some "search" => [.change, .enter]
    | _ => []
  | _ => []

/-- Data that the element carries for what it does. -/
def data? (name : String) : Option String := e.attribute? ("data-" ++ name)

/-- All data that the element carries for what it does. -/
def subject : List (String × String) :=
  e.attributes.filterMap fun
    | .data name value => some (name, value)
    | _ => none

/-- The value of an option. -/
def optionValue? : Node ρ → Option String
  | .element .option attributes children =>
    Element.attribute? ⟨.option, attributes, children⟩ "value"
  | _ => none

/-- What can be chosen from an element. -/
def choices : List String := e.children.filterMap optionValue?

/-- Whether a user can leave this in an element: of a choice, one of its options. -/
def Allows (g : Gesture) : Prop := e.tag = .select → g.value ∈ e.choices

end Markup.Element

/-- Assigns a member: in place of the one with its name, or else after all others. -/
def Json.Members.assign (name : String) (value : Json) : Json.Members → Json.Members
  | [] => [(name, value)]
  | (n, v) :: rest => if n = name then (n, value) :: rest else (n, v) :: assign name value rest

namespace Wiring.Post

open Markup

variable {ρ : Type}

/-- What is assigned to the message, in order: the data of the element, its value and whether it is
    checked. A member without a name is not assigned. -/
def assignments (p : Post) (e : Element ρ) (g : Gesture) : Json.Members :=
  (p.attributes.map fun name => (name, (e.data? name).elim .null .string)) ++
    (p.value.filter (· != "")).toList.map (·, .string g.value) ++
    (p.checked.filter (· != "")).toList.map (·, .bool g.checked)

/-- The message that is posted for an element of a tab. -/
def message (p : Post) (tabId : String) (e : Element ρ) (g : Gesture) : Json :=
  let all := ("command", .string p.command) :: ("tabId", .string tabId) :: p.assignments e g
  .object (all.foldl (fun ms m => Json.Members.assign m.1 m.2 ms) [])

end Wiring.Post

end Dashboard
