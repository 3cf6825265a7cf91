import Dashboard.Command.Feed
import Dashboard.Panel.Session
import Dashboard.Program.Arguments
import Dashboard.Program.Log
import Dashboard.Settings.Store
/-!
# What a run of the program does

* `Program.plan` — what the command line, the environment and the files come to.
* `Program.once` — draws one tab, or all of them as a page.
* `Program.opening` — the panel with which a session begins.
* `Program.serve` — a session whose commands are all there when it begins.
-/

namespace Dashboard.Program

/-- What a run of the program does. -/
inductive Plan where
  /-- It tells what it did. -/
  | tell (text : String)
  /-- It draws one tab, or all of them. -/
  | once (settings : Settings) (tab : Option String)
  /-- It serves a view, with one tab active at first. -/
  | serve (settings : Settings) (active : Option String)

section Machine

variable {m : Type → Type} [Monad m] [Machine m]

/-- Makes room for the log and begins it. -/
def beginLog (s : Surroundings) : m (Except Fault Unit) := do
  match ← Machine.makeDirectories (Log.directory s) with
  | .error f => return .error f
  | .ok () =>
    Machine.note (.info "devboard host starting")
    Machine.note (.info ("Log directory: " ++ Log.directory s))
    return .ok ()

/-- Writes a file of settings. -/
def installPlan (s : Surroundings) (config : Option String) : m (Except Fault Plan) := do
  match Settings.locate? s config with
  | none => return .error (.config "no config directory available on this platform")
  | some (path, _) =>
    match ← Settings.install path with
    | .error f => return .error f
    | .ok true => return .ok (.tell ("Wrote default config to " ++ path ++ "\n"))
    | .ok false => return .ok (.tell ("Config already exists at " ++ path ++ "\n"))

/-- What a run of the program does. -/
def plan (s : Surroundings) (a : Arguments) : m (Except Fault Plan) := do
  match ← beginLog s with
  | .error f => return .error f
  | .ok () =>
    if a.installs then installPlan s a.config
    else
      match ← Settings.load s a.config with
      | .error f => return .error f
      | .ok settings =>
        return .ok (if a.once then .once settings a.tab else .serve settings a.tab)

end Machine

section World

variable {m : Type → Type} [Monad m] [World m]

/-- A new panel. -/
def newPanel (settings : Settings) : m Panel := do
  let p := Panel.ofSettings settings
  World.note p.birthNotice
  return p

/-- Loads every tab once and draws one of them, or all of them as a page. -/
def once (settings : Settings) (tab : Option String) : m (Except Fault Frame) := do
  let p ← (← newPanel settings).loadAll
  let now ← World.now
  match tab with
  | none => return .ok (.document (p.document now))
  | some id =>
    match p.render? id now with
    | some r => return .ok (.render r)
    | none => return .error (.config ("unknown tab '" ++ id ++ "'"))

def startNotice : Notice := .info "devboard starting in stdio mode"

def endNotice : Notice := .info "devboard stdio mode exiting"

/-- The panel with which a session begins. -/
def opening (settings : Settings) (active : Option String) : m Panel := do
  World.note startNotice
  let p ← newPanel settings
  match active with
  | none => return p
  | some id =>
    let (known, p) := p.activate id
    if !known then World.note (.warning ("Ignoring unknown initial tab '" ++ id ++ "'"))
    return p

/-- A session whose commands are all there when it begins. -/
def serve (settings : Settings) (active : Option String) (input : List UInt8) :
    m (Except Fault (List Frame)) := do
  let p ← opening settings active
  let feed := Command.Feed.ofBytes input
  World.noteAll feed.notices
  let frames ← Session.collect true p feed.commands
  World.note endNotice
  return frames

end World

end Dashboard.Program
