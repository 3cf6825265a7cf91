import Dashboard.Program.Outcome
import Std.Time.DateTime.Timestamp
/-!
# The program

The dashboard on a real machine: its files, its clock, its log and its standard streams. The machine
opens no connections, so every daemon that has an address counts as out of reach.
-/

namespace Dashboard.Main

open Program

/-- What runs on the real machine; it knows where the log is kept. -/
abbrev Real := ReaderT Surroundings IO

/-- Does something that may fail as anything with files can. -/
def attempt {α : Type} (act : IO α) : IO (Except Fault α) := do
  try return .ok (← act)
  catch e => return .error (.io (toString e))

def clock : IO Time.Instant := do
  let n := (← Std.Time.Timestamp.now).toNanosecondsSinceUnixEpoch.val
  return { seconds := n / 1000000000, nanos := (n % 1000000000).toNat }

instance : Machine Real where
  isThere path := do
    if path.isEmpty then return false
    (((← IO.currentDir) / path).pathExists : IO Bool)
  readText path := attempt (IO.FS.readFile path)
  writeText path text := attempt (IO.FS.writeFile path text)
  makeDirectories path := attempt (if path.isEmpty then pure () else IO.FS.createDirAll path)
  connect _ := return "IO error: no network"
  now := clock
  note n := do
    let path := Path.join (Log.directory (← read)) (Log.fileName (← clock))
    discard <| attempt do
      let h ← IO.FS.Handle.mk path .append
      h.putStr (Log.line n)

/-- The bytes of the next line of standard input, none at its end. -/
partial def nextLine (input : IO.FS.Stream) (soFar : List UInt8) : IO (Option (List UInt8)) := do
  let bytes ← input.read 1
  match bytes.toList with
  | [] => return if soFar.isEmpty then none else some soFar.reverse
  | b :: _ =>
    if b = Text.lineFeed then return some (Text.dropReturn soFar.reverse)
    else nextLine input (b :: soFar)

/-- Sends a frame. -/
def send (f : Frame) : ReaderT Bus Real Unit := do
  let output ← IO.getStdout
  output.putStr f.line
  output.flush

/-- Takes commands until standard input ends. -/
partial def takeAll (s : Session) : ReaderT Bus Real Unit := do
  match ← nextLine (← IO.getStdin) [] with
  | none => return
  | some line =>
    match Text.ofUtf8? line with
    | none => World.note Command.Feed.unreadableNotice
    | some text =>
      let feed := Command.Feed.ofLine text
      World.noteAll feed.notices
      takeAll (← feed.commands.foldlM (Session.take send) s)

/-- Serves a view over the standard streams. -/
def serve (settings : Settings) (active : Option String) : ReaderT Bus Real Unit := do
  takeAll (← Session.begin send (← opening settings active))
  World.note Command.Feed.endNotice
  World.note Session.endNotice
  World.note Program.endNotice

/-- Ends the program with what a run left. -/
def finish (o : Outcome) : IO UInt32 := do
  IO.print o.output
  IO.eprint o.told
  return o.exitCode.toUInt32

end Dashboard.Main

open Dashboard Dashboard.Main in
/-- Runs the dashboard. -/
def main (words : List String) : IO UInt32 := do
  let names := ["DEVBOARD_CONFIG", "XDG_CONFIG_HOME", "XDG_DATA_HOME", "HOME"]
  let values ← names.mapM fun n => return (n, ← IO.getEnv n)
  let around := Surroundings.ofVariables fun n => (values.lookup n).join
  match Program.Arguments.parse words with
  | .error u => finish (.ofUsage u)
  | .ok a =>
    match ← (Program.plan around a : Real _).run around with
    | .error f => finish (.ofFault f)
    | .ok (.serve settings active) =>
      try
        ((serve settings active).run (Bus.ofSettings settings)).run around
        return 0
      catch e => finish (.ofFault (.io (toString e)))
    | .ok p => finish (← (p.run [] : Real Program.Outcome).run around)
