import Dashboard.Fault
import Dashboard.Machine.Path
import Dashboard.Text.Lines
/-!
# Trees of files

* `FileTree` — directories and files, each at a place.
* `FileTree.isPath`, `FileTree.isName` — the paths and the names that a tree can have.
* `FileTree.place?` — the place to which a path leads.
* `FileTree.text`, `FileTree.write`, `FileTree.makeDirectories` — what can be done with a tree, or
  why it cannot.
-/

namespace Dashboard

/-- What stands at a place of a tree. -/
inductive FileTree.Node where
  | directory
  | file (bytes : List UInt8)
  deriving DecidableEq, Repr

/-- The names that lead to a place: from the root if the first one is a slash, else from the
    directory in which the program runs. -/
abbrev FileTree.Place := List String

/-- Directories and files. The root and the directory in which the program runs are always
    there. -/
structure FileTree where
  nodes : List (FileTree.Place × FileTree.Node) := []

namespace FileTree

def root : Place := ["/"]

/-- What stands at a place. -/
def node? (t : FileTree) (p : Place) : Option Node :=
  if p = [] ∨ p = root then some .directory else (t.nodes.find? (·.1 == p)).map (·.2)

/-- Puts something at a place. -/
def put (t : FileTree) (p : Place) (n : Node) : FileTree := ⟨(p, n) :: t.nodes⟩

/-- The place of the directory that holds a place. -/
def up (p : Place) : Place := if p = root then root else p.dropLast

/-- A path has at most this many bytes. -/
def longestPath : Nat := 4095

/-- A name has at most this many bytes. -/
def longestName : Nat := 255

/-- Whether a text can be a path. -/
def isPath (path : String) : Bool :=
  path.utf8ByteSize ≤ longestPath && !path.toList.contains '\x00'

/-- Whether a text can be a name. -/
def isName (name : String) : Bool := name.utf8ByteSize ≤ longestName

/-- The place to which names lead. Each name but the last has to be that of a directory. -/
def walk? (t : FileTree) (here : Place) : List String → Option Place
  | [] => some here
  | name :: rest =>
    if t.node? here ≠ some .directory ∨ !isName name then none
    else if name = "" ∨ name = "." then t.walk? here rest
    else if name = ".." then t.walk? (up here) rest
    else t.walk? (here ++ [name]) rest

/-- Where a path begins. -/
def start (path : String) : Place := if Path.isAbsolute path then root else []

/-- The place to which a path leads; there may be nothing yet. -/
def place? (t : FileTree) (path : String) : Option Place :=
  if path = "" ∨ !isPath path then none else t.walk? (start path) (Path.names path)

/-- What stands at the end of a path. -/
def at? (t : FileTree) (path : String) : Option Node := (t.place? path).bind t.node?

/-- The text of a file. -/
def text (t : FileTree) (path : String) : Except Fault String :=
  match t.at? path with
  | none => .error (.io "No such file or directory")
  | some .directory => .error (.io "Is a directory")
  | some (.file bytes) =>
    match Text.ofUtf8? bytes with
    | some s => .ok s
    | none => .error (.io "stream did not contain valid UTF-8")

/-- Writes a file, in place of one that was there before. -/
def write (t : FileTree) (path : String) (bytes : List UInt8) : Except Fault FileTree :=
  match t.place? path with
  | none => .error (.io "No such file or directory")
  | some p =>
    if t.node? p = some .directory then .error (.io "Is a directory")
    else .ok (t.put p (.file bytes))

/-- What came of making directories: those that were made before one could not be made stay. -/
structure Made where
  tree : FileTree
  result : Except Fault Unit

/-- Makes the directories to which names lead and that are missing. -/
def makeAll (t : FileTree) (here : Place) : List String → Made
  | [] => ⟨t, .ok ()⟩
  | name :: rest =>
    if name = "" ∨ name = "." then t.makeAll here rest
    else if name = ".." then t.makeAll (up here) rest
    else if !isName name then ⟨t, .error (.io "File name too long")⟩
    else
      match t.node? (here ++ [name]) with
      | some .directory => t.makeAll (here ++ [name]) rest
      | some (.file _) => ⟨t, .error (.io "Not a directory")⟩
      | none => (t.put (here ++ [name]) .directory).makeAll (here ++ [name]) rest

/-- Makes the directories of a path that are missing. -/
def makeDirectories (t : FileTree) (path : String) : Made :=
  if isPath path then t.makeAll (start path) (Path.names path)
  else ⟨t, .error (.io "Invalid file name")⟩

end FileTree

end Dashboard
