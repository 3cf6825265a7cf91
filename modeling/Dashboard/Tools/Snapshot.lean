import Dashboard.Json.Printer
import Dashboard.Payload
import Dashboard.Tab.Report
/-!
# What is known of the tools

* `Tools.Tool`, `Tools.Kit` — a tool, and a module of tools.
* `Tools.Snapshot` — the modules and the configuration, `Tools.Snapshot.ofReport` — as a load
  brought them.
-/

namespace Dashboard.Tools

/-- The method that lists the modules. -/
def modulesMethod : String := "listModules"

/-- The method that tells the configuration. -/
def configMethod : String := "getConfig"

/-- A tool. -/
structure Tool where
  name : String
  description : String
  enabled : Bool

namespace Tool

def nameFields : Aliases := ["name", "id"]
def descriptionFields : Aliases := ["description", "summary"]
def enabledFields : Aliases := ["enabled", "active"]

/-- The tool that a value describes. One without a name is none. -/
def ofJson? (x : Json) : Option Tool :=
  (x.wordOf? nameFields).map fun name =>
    { name
      description := x.textOr descriptionFields ""
      enabled := x.truthOr enabledFields true }

end Tool

/-- A module of tools. -/
structure Kit where
  name : String
  description : String
  tools : List Tool

namespace Kit

def nameFields : Aliases := ["name", "id"]
def descriptionFields : Aliases := ["description", "summary"]
def toolsFields : Aliases := ["tools"]

/-- The module that a value describes. One without a name is none. -/
def ofJson? (x : Json) : Option Kit :=
  (x.wordOf? nameFields).map fun name =>
    { name
      description := x.textOr descriptionFields ""
      tools := (x.listOf toolsFields).filterMap Tool.ofJson? }

def tool? (k : Kit) (name : String) : Option Tool := k.tools.find? (·.name == name)

def enabledCount (k : Kit) : Nat := (k.tools.filter (·.enabled)).length

end Kit

/-- What the daemon told. -/
structure Snapshot where
  modules : Option (List Kit) := none
  /-- The configuration as text, sorted by name. -/
  settings : Option (List (String × String)) := none

namespace Snapshot

def modulesFields : Aliases := ["modules"]
def settingsFields : Aliases := ["settings", "config"]

/-- The modules in a list. -/
def modulesOf (x : Json) : List Kit := (x.listing modulesFields).filterMap Kit.ofJson?

/-- A value of the configuration as text. -/
def settingText : Json → String
  | .string s => s
  | .null => ""
  | x => x.print

/-- The entries of a configuration, which may come bare or as a field of an object. -/
def settingsOf (x : Json) : List (String × String) :=
  (((x.objectOf? settingsFields).or x.members?).getD []).map fun m => (m.1, settingText m.2)

/-- What a load brought; a part whose call failed is absent. -/
def ofReport (r : Tab.Report) : Snapshot where
  modules := (r.data? modulesMethod).map modulesOf
  settings := (r.data? configMethod).map settingsOf

def module? (s : Snapshot) (name : String) : Option Kit :=
  s.modules.bind fun ms => ms.find? (·.name == name)

/-- The module that is shown: the selected one, or else the first. -/
def active? (s : Snapshot) (selected : Option String) : Option Kit :=
  (selected.bind s.module?).or (s.modules.bind List.head?)

def enabledCount (s : Snapshot) : Nat := (s.modules.getD []).foldr (fun k n => k.enabledCount + n) 0

end Snapshot

end Dashboard.Tools
