import Dashboard.Payload
import Mathlib.Data.List.Forall2
/-!
# Other spellings of records and lists

A daemon may send a field of a record under any of its names, and a list of records bare or as the
only member of an object.

* `Json.Field`, `Json.Record` — the fields of a record, no two of which have a name in common.
* `Json.Record.Respells` — the same record with other names.
* `Json.Listing`, `Json.Listing.Respells` — a list of records that may come bare or as a field of a
  record.
-/

namespace Dashboard.Json

/-- A field of a record: its names, and what of it may be spelled otherwise. -/
structure Field where
  names : Aliases
  /-- The values that may come under another of the names. -/
  moves : Json → Prop
  /-- What a value may be replaced by. -/
  same : Json → Json → Prop
  refl (x : Json) : same x x
  isNull_eq {x y : Json} : same x y → y.isNull = x.isNull

/-- A field that is read as it is. -/
def Field.plain (names : Aliases) : Field where
  names
  moves _ := True
  same := Eq
  refl _ := rfl
  isNull_eq h := h ▸ rfl

/-- A field that is read only if it holds an object. -/
def Field.nested (names : Aliases) : Field :=
  { Field.plain names with moves := fun x => x.members?.isSome = true }

/-- Lists whose items correspond; any other value stays as it is. -/
inductive Elements (item : Json → Json → Prop) : Json → Json → Prop
  | same (x : Json) : Elements item x x
  | items {xs ys : List Json} : List.Forall₂ item xs ys → Elements item (.array xs) (.array ys)

/-- A field that holds a list. -/
def Field.list (names : Aliases) (item : Json → Json → Prop) : Field where
  names
  moves _ := True
  same := Elements item
  refl := .same
  isNull_eq h := by cases h <;> rfl

/-- Two fields that have no name in common. -/
def Field.Apart (f g : Field) : Prop := ∀ name ∈ f.names, name ∉ g.names

instance : DecidableRel Field.Apart := fun f g =>
  inferInstanceAs (Decidable (∀ name ∈ f.names, name ∉ g.names))

/-- The fields of a record. -/
structure Record where
  fields : List Field
  apart : fields.Pairwise Field.Apart

namespace Record

/-- What a member of an object may become: one that is no field stays as it is, a field may have its
    value replaced, and it may come under another of its names if the object has it under no other
    name already. -/
inductive Renames (r : Record) (ms : Members) : String × Json → String × Json → Prop
  | other {name : String} {x : Json} (hother : ∀ f ∈ r.fields, name ∉ f.names) :
      Renames r ms (name, x) (name, x)
  | kept {f : Field} {name : String} {x y : Json} (hf : f ∈ r.fields) (hname : name ∈ f.names)
      (hsame : f.same x y) : Renames r ms (name, x) (name, y)
  | moved {f : Field} {name newName : String} {x y : Json} (hf : f ∈ r.fields)
      (hname : name ∈ f.names) (hnew : newName ∈ f.names) (hmoves : f.moves x)
      (hsame : f.same x y) (hsole : ∀ m ∈ ms, m.1 ∈ f.names → m.1 = name) :
      Renames r ms (name, x) (newName, y)

/-- The same record in another spelling. The members of an object stand sorted by name before and
    after. -/
inductive Respells (r : Record) : Json → Json → Prop
  | same (x : Json) : Respells r x x
  | object {ms : Members} (rename : String × Json → String × Json) (hsorted : ms.sorted = ms)
      (hrename : ∀ m ∈ ms, r.Renames ms m (rename m)) :
      Respells r (.object ms) (.object (Members.sorted (ms.map rename)))

end Record

/-- A list of records that may come bare or as a field of a record, with the names of that field and
    the other fields. -/
structure Listing where
  names : Aliases
  item : Record
  others : List Field
  apart : (Field.list names item.Respells :: others).Pairwise Field.Apart

namespace Listing

/-- The record that holds the list. -/
def record (l : Listing) : Record := ⟨Field.list l.names l.item.Respells :: l.others, l.apart⟩

/-- The same list in another spelling. An object that has only the list may become the list. -/
inductive Respells (l : Listing) : Json → Json → Prop
  | record {x y : Json} (h : l.record.Respells x y) : Respells l x y
  | bare {xs ys : List Json} (h : List.Forall₂ l.item.Respells xs ys) :
      Respells l (.array xs) (.array ys)
  | unwrapped {name : String} {xs ys : List Json} (hname : name ∈ l.names)
      (h : List.Forall₂ l.item.Respells xs ys) :
      Respells l (.object [(name, .array xs)]) (.array ys)

end Listing

end Dashboard.Json
