import Dashboard.Settings.Basic
import Dashboard.Tab
import Dashboard.Text.Quoted
/-!
# The panel

The panel holds the tabs, knows which of them is active, and keeps a list of those that are to be
drawn again. Calls to daemons are handed out as work; nothing here waits for an answer.

* `Panel.Work`, `Panel.Completion` — a piece of work, and what came of it.
* `Panel.dispatch` — what a command does, and the work that it makes.
* `Panel.apply` — what the completion of a piece of work does. A mutation that is complete makes the
  work of loading its tab.
-/

namespace Dashboard

/-- The tabs in order and the one that is active. -/
structure Panel where
  tabs : List Tab
  active : Option String
  /-- The tabs that asked to be drawn again, by name, the oldest request first. -/
  signals : List String := []
  /-- Whether another tab was made active since the bar was drawn. -/
  barChanged : Bool := false

/-- A piece of work. Tabs are numbered by their place. -/
inductive Panel.Work where
  /-- The calls of a load. -/
  | load (index ticket : Nat) (daemon : Daemon) (queries : List Tab.Query)
  | change (index : Nat) (mutation : Tab.Mutation)

/-- What came of a piece of work. -/
inductive Panel.Completion where
  | loaded (index ticket : Nat) (report : Tab.Report)
  | changed (index : Nat) (reply : Reply)

/-- What a command did. -/
structure Panel.Routed where
  panel : Panel
  handled : Bool
  work : List Panel.Work := []
  notices : List Notice := []

/-- What a completion did. -/
structure Panel.Applied where
  panel : Panel
  work : List Panel.Work := []
  notices : List Notice := []

namespace Panel

/-- The panel of some tabs. The first one is active. -/
def ofTabs (tabs : List Tab) : Panel := { tabs, active := tabs.head?.map Tab.id }

/-- The panel that the settings ask for. -/
def ofSettings (s : Settings) : Panel :=
  ofTabs (s.shown.map fun d => Tab.new d s.maxRetries s.historyLimit)

/-- What is to be noted of a new panel. -/
def birthNotice (p : Panel) : Notice :=
  .info ("Host panel built with " ++ toString p.tabs.length ++ " tabs")

/-- The first tab with a name. -/
def tab? (p : Panel) (id : String) : Option Tab := p.tabs.find? (·.id == id)

/-- The place of the first tab with a name. -/
def index? (p : Panel) (id : String) : Option Nat := p.tabs.findIdx? (·.id == id)

def setTab (p : Panel) (index : Nat) (t : Tab) : Panel := { p with tabs := p.tabs.set index t }

/-- A tab asks to be drawn again. -/
def signal (p : Panel) (id : String) : Panel := { p with signals := p.signals ++ [id] }

/-- The tabs that asked to be drawn again, each once, and the panel without their requests. -/
def takeSignals (p : Panel) : List String × Panel :=
  (p.signals.eraseDups, { p with signals := [] })

/-- Makes a tab active; the answer says whether there is such a tab. -/
def activate (p : Panel) (id : String) : Bool × Panel :=
  if (p.index? id).isNone then (false, p)
  else if p.active = some id then (true, p)
  else (true, { p with active := some id, barChanged := true })

/-! ### Work -/

/-- The load of a tab begins. -/
def beginLoad (p : Panel) (index : Nat) : Panel × List Work :=
  match p.tabs[index]? with
  | none => (p, [])
  | some t =>
    let (ticket, t) := t.begin
    (p.setTab index t, [.load index ticket t.daemon t.queries])

/-- The loads of several tabs begin. -/
def beginLoads (p : Panel) : List Nat → Panel × List Work
  | [] => (p, [])
  | index :: rest =>
    let (p, work) := p.beginLoad index
    let (p, more) := p.beginLoads rest
    (p, work ++ more)

/-- The loads of all tabs begin. -/
def beginAll (p : Panel) : Panel × List Work := p.beginLoads (List.range p.tabs.length)

/-! ### Commands -/

/-- A command that concerns no tab. -/
def ignore (p : Panel) (notices : List Notice) : Routed := { panel := p, handled := false, notices }

/-- What the reaction of a tab comes to. -/
def route (p : Panel) (index : Nat) (t : Tab) (reaction : Tab.Reaction) : Routed :=
  let p := p.setTab index t
  match reaction with
  | .ignored _ => p.ignore reaction.notices
  | .redraw => { panel := p.signal t.id, handled := true }
  | .reload =>
    let (p, work) := p.beginLoad index
    { panel := p, handled := true, work }
  | .change mutation => { panel := p, handled := true, work := [.change index mutation] }

/-- Hands a command to a tab. -/
def address (p : Panel) (index : Nat) (c : Command) : Routed :=
  match p.tabs[index]? with
  | none => p.ignore []
  | some t =>
    let (t, reaction) := t.react c
    p.route index t reaction

/-- Hands a command to the tabs in turn until one of them handles it. -/
def offer (p : Panel) (c : Command) : List Nat → Routed
  | [] => p.ignore []
  | index :: rest =>
    let routed := p.address index c
    if routed.handled then routed
    else
      let next := routed.panel.offer c rest
      { next with notices := routed.notices ++ next.notices }

/-- The command that makes a tab active. -/
def selectWord : String := "selectTab"

/-- The command that loads all tabs. -/
def refreshWord : String := "refreshAll"

/-- Makes a tab active. -/
def select (p : Panel) (c : Command) : Routed :=
  let target := (c.word? "tab").or c.tab
  match target.map p.activate with
  | some (true, p) => { panel := p, handled := true }
  | _ => p.ignore [.warning ("selectTab for unknown tab " ++ Text.quotedOption target)]

/-- What a command does. One that is addressed to a tab is handed to no other. -/
def dispatch (p : Panel) (c : Command) : Routed :=
  if c.name = selectWord then p.select c
  else if c.name = refreshWord then
    let (p, work) := p.beginAll
    { panel := p, handled := true, work }
  else
    match c.tab with
    | none => p.offer c (List.range p.tabs.length)
    | some id =>
      match p.index? id with
      | some index => p.address index c
      | none => p.ignore []

/-! ### Completions -/

/-- What a report does. -/
def applyReport (p : Panel) (index ticket : Nat) (report : Tab.Report) : Applied :=
  match p.tabs[index]? with
  | none => { panel := p }
  | some t =>
    let (applied, t) := t.complete ticket report
    let p := p.setTab index t
    if applied then { panel := p.signal t.id, notices := t.loadNotices report } else { panel := p }

/-- What the completion of a mutation does. -/
def applyChange (p : Panel) (index : Nat) : Applied :=
  let (p, work) := p.beginLoad index
  { panel := p, work }

/-- What a completion does. -/
def apply (p : Panel) : Completion → Applied
  | .loaded index ticket report => p.applyReport index ticket report
  | .changed index _ => p.applyChange index

end Panel

end Dashboard
