import Dashboard.Fault.Details
import Dashboard.Machine.Basic
import Dashboard.Settings.Document
import Dashboard.Settings.Location
/-!
# The file of settings

* `Settings.loadFrom` — the settings in a file. A file that is missing or cannot be used counts for
  nothing.
* `Settings.load` — the settings of a run of the program. A missing file is a failure only if the
  command line named it.
* `Settings.install` — writes a file with the default settings unless something is there.
-/

namespace Dashboard.Settings

variable {m : Type → Type} [Monad m] [Machine m]

/-- Why a file could not be read. -/
def readingReason : Fault → String
  | .io reason => reason
  | f => f.message

/-- The settings in a file. -/
def loadFrom (path : String) : m Settings := do
  if !(← Machine.isThere path) then return default
  match ← Machine.readText path with
  | .error f =>
    Machine.note (.warning ("Failed to read " ++ Text.quotedPath path ++ ": " ++ readingReason f))
    return default
  | .ok text =>
    match parse text with
    | .error f =>
      Machine.note (.warning ("Failed to parse " ++ Text.quotedPath path ++ ": " ++ f.message))
      return default
    | .ok (settings, problems) =>
      problems.forM fun p => Machine.note p.notice
      return settings

/-- The settings of a run of the program. -/
def load (s : Surroundings) (explicit : Option String) : m (Except Fault Settings) := do
  match locate? s explicit with
  | none => return .ok default
  | some (path, origin) =>
    if origin = .commandLine ∧ !(← Machine.isThere path) then return .error (.configNotFound path)
    return .ok (← loadFrom path)

/-- Does something, and notes if it fails. -/
def attempt (activity : String) (act : m (Except Fault Unit)) : ExceptT Fault m Unit := do
  match ← liftM act with
  | .ok () => return
  | .error f =>
    liftM (Machine.note (f.noticeDuring activity) : m Unit)
    throw f

/-- Writes a file with the default settings unless something is there; the answer says whether it
    was written. -/
def install (path : String) : m (Except Fault Bool) := ExceptT.run do
  if ← (Machine.isThere path : m Bool) then return false
  match Path.parent? path with
  | some parent => attempt "creating config directory" (Machine.makeDirectories parent : m _)
  | none => pure ()
  attempt "writing default config" (Machine.writeText path template : m _)
  liftM (Machine.note (.info ("Created default config at " ++ Text.quotedPath path)) : m Unit)
  return true

end Dashboard.Settings
