import Dashboard.Machine.Basic
import Dashboard.Machine.FileTree
/-!
# A machine that stands still

* `Machine.Still` — a machine with a tree of files, no network, a clock that stands still, and a
  list of the notices taken so far.
-/

namespace Dashboard

/-- A machine without a network whose clock stands still. -/
structure Machine.Still where
  files : FileTree := {}
  /-- Why connections fail. -/
  refusal : String := "no network"
  clock : Time.Instant := { seconds := 0 }
  notices : List Notice := []

namespace Machine.Still

/-- Writes a file unless that fails. -/
def write (path text : String) : StateM Still (Except Fault Unit) := fun s =>
  match s.files.write path text.toUTF8.toList with
  | .ok files => (.ok (), { s with files })
  | .error e => (.error e, s)

/-- Makes directories. -/
def makeDirectories (path : String) : StateM Still (Except Fault Unit) := fun s =>
  let made := s.files.makeDirectories path
  (made.result, { s with files := made.tree })

instance : Machine (StateM Still) where
  isThere path := return ((← get).files.at? path).isSome
  readText path := return (← get).files.text path
  writeText := write
  makeDirectories := makeDirectories
  connect _ := return (← get).refusal
  now := return (← get).clock
  note n := modify fun s => { s with notices := s.notices ++ [n] }

end Machine.Still

end Dashboard
