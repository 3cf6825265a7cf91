/-!
# Paths

A path is names with slashes between them. A name that is empty or a point stays where it is.

* `Path.join` — a path with one more name.
* `Path.names`, `Path.isAbsolute` — the parts of a path.
* `Path.parent?` — the path without its last name.
-/

namespace Dashboard.Path

/-- A path with one more name. -/
def join (directory name : String) : String :=
  match directory.toList.getLast? with
  | none => name
  | some '/' => directory ++ name
  | some _ => directory ++ "/" ++ name

/-- Whether a path begins at the root. -/
def isAbsolute (path : String) : Bool := path.toList.head? == some '/'

/-- The names of a path. -/
def names (path : String) : List String := (path.toList.splitOn '/').map String.ofList

/-- The path without its last name, none if it has no name. -/
def parent? (path : String) : Option String :=
  match (names path).filter (fun n => n != "" && n != ".") with
  | [] => none
  | n :: ns =>
    let rest := "/".intercalate (n :: ns).dropLast
    some (if isAbsolute path then "/" ++ rest else rest)

end Dashboard.Path
