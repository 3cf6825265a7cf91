import Dashboard.Binary64.Reading
/-!
# Tables of a TOML document

A document assigns values to names. Names lie in tables, tables in tables, and each table comes to
be in one of three ways, of which it depends how it may still grow.

* `Toml.Value` — a value of a finished document.
* `Toml.Entries` — a table that is still growing.
* `Entries.assign?`, `Entries.declare?`, `Entries.append?` — what a line of a document does to the
  tables, none where the line is refused.
-/

namespace Dashboard.Toml

/-- A value. -/
inductive Value where
  | string (value : String)
  | integer (value : Int)
  | float (value : Reading)
  | bool (value : Bool)
  /-- A date, a time of day or both, as it is written. -/
  | moment (text : String)
  | array (items : List Value)
  | table (members : List (String × Value))
  deriving Repr, Inhabited

/-- How a table came to be. -/
inductive Origin where
  /-- By a header of its own. -/
  | declared
  /-- By the header of a table within it. -/
  | implied
  /-- By a name with dots. -/
  | dotted
  deriving DecidableEq, Repr

/-- What a name in a growing document stands for. -/
inductive Entry where
  | value (v : Value)
  | table (origin : Origin) (entries : List (String × Entry))
  /-- Tables under one name, of which the last one is still growing. -/
  | series (earlier : List (List (String × Entry))) (last : List (String × Entry))

/-- The names of a growing table. -/
abbrev Entries := List (String × Entry)

/-- A name with the names of the tables that lead to it. -/
structure Path where
  tables : List String
  name : String
  deriving DecidableEq, Repr

namespace Entries

/-- Puts what `f` gives in place of what a name stands for, or after the other names. -/
def alter? (name : String) (f : Option Entry → Option Entry) : Entries → Option Entries
  | [] => (f none).map fun e => [(name, e)]
  | (n, e) :: es =>
    if n = name then (f (some e)).map fun e => (n, e) :: es
    else (alter? name f es).map ((n, e) :: ·)

/-- Changes the table to which names lead. Tables that are missing on the way are made. Names with
    dots cannot lead through a table that has a header of its own. -/
def within? (dots : Bool) (f : Origin → Entries → Option Entries) :
    Origin → List String → Entries → Option Entries
  | origin, [], es => f origin es
  | _, table :: tables, es =>
    es.alter? table fun
      | none =>
        let origin : Origin := if dots then .dotted else .implied
        (within? dots f origin tables []).map (.table origin)
      | some (.table origin inner) =>
        if dots ∧ origin = .declared then none
        else (within? dots f origin tables inner).map (.table origin)
      | some (.series earlier last) => (within? dots f .declared tables last).map (.series earlier)
      | some (.value _) => none

/-- Assigns a value to a name that stands for nothing yet. A name with dots lies in a table that
    such a name made. -/
def assign? (path : Path) (v : Value) : Entries → Option Entries :=
  within? true (fun origin es =>
      if (origin == .dotted) == path.tables.isEmpty then none
      else es.alter? path.name fun
        | none => some (.value v)
        | some _ => none)
    .declared path.tables

/-- Gives a table a header of its own, which it can have once. -/
def declare? (path : Path) : Entries → Option Entries :=
  within? false (fun _ es => es.alter? path.name fun
      | none => some (.table .declared [])
      | some (.table .implied inner) => some (.table .declared inner)
      | some _ => none)
    .declared path.tables

/-- Begins one more table under a name. -/
def append? (path : Path) : Entries → Option Entries :=
  within? false (fun _ es => es.alter? path.name fun
      | none => some (.series [] [])
      | some (.series earlier last) => some (.series (earlier ++ [last]) [])
      | some _ => none)
    .declared path.tables

end Entries

mutual

/-- What a name stands for when the document has ended. -/
def Entry.toValue : Entry → Value
  | .value v => v
  | .table _ es => .table (finish es)
  | .series earlier last => .array (finishAll earlier ++ [.table (finish last)])

/-- The members of a table when the document has ended. -/
def finish : List (String × Entry) → List (String × Value)
  | [] => []
  | (name, e) :: es => (name, e.toValue) :: finish es

def finishAll : List (List (String × Entry)) → List Value
  | [] => []
  | es :: rest => .table (finish es) :: finishAll rest

end

/-- The table that assignments between braces make. -/
def inlineTable? (pairs : List (Path × Value)) : Option Value :=
  (pairs.foldlM (fun es (path, v) => Entries.assign? path v es) []).map fun es => .table (finish es)

/-- A line of a document. -/
inductive Statement where
  | assign (path : Path) (v : Value)
  | table (path : Path)
  | element (path : Path)

/-- The tables after a line; the second part leads to the table whose header came last. -/
def Statement.perform? (s : Statement) (es : Entries) (header : List String) :
    Option (Entries × List String) :=
  match s with
  | assign path v =>
    (Entries.within? false (fun _ => Entries.assign? path v) .declared header es).map (·, header)
  | table path => (es.declare? path).map (·, path.tables ++ [path.name])
  | element path => (es.append? path).map (·, path.tables ++ [path.name])

/-- The table that the lines of a document make. -/
def ofStatements? (lines : List Statement) : Option Value := do
  let step (state : Entries × List String) (s : Statement) := s.perform? state.1 state.2
  let (es, _) ← lines.foldlM step ([], [])
  return .table (finish es)

end Dashboard.Toml
