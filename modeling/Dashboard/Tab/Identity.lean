import Dashboard.Json.Record
/-!
# What a tab is and how far it has come

* `Tab.Identity` — the name by which messages address a tab, and how its button is labelled.
* `Tab.Phase` — whether a tab was ever loaded, is loading, shows data or failed.
-/

namespace Dashboard.Tab

/-- The fixed description of a tab. -/
structure Identity where
  /-- The name in messages and in the attributes of the tab's elements. -/
  id : String
  /-- The text of the tab's button. -/
  label : String
  /-- The name of the button's icon. -/
  icon : String
  deriving DecidableEq, Repr

/-- The identity in a JSON text. -/
def Identity.read? (s : String) : Option Identity := do
  let fields ← Json.Fields.read? (fun name => ["id", "label", "icon"].contains name) s
  guard (fields.noMoreThan 3)
  let id ← (← fields.require? "id" 0).string?
  let label ← (← fields.require? "label" 1).string?
  let icon ← (← fields.require? "icon" 2).string?
  return ⟨id, label, icon⟩

/-- How far the loading of a tab has come. -/
inductive Phase where
  | uninitialized
  | loading
  | loaded
  | errored
  deriving DecidableEq, Repr, Inhabited

namespace Phase

def all : List Phase := [uninitialized, loading, loaded, errored]

def name : Phase → String
  | uninitialized => "Uninitialized"
  | loading => "Loading"
  | loaded => "Loaded"
  | errored => "Errored"

/-- The phase that a JSON text names. Members repeated in the text do not name one. -/
def read? (s : String) : Option Phase := do
  let name ← (← Json.readRaw? s).variant?
  all.find? (·.name == name)

end Phase

end Dashboard.Tab
