import Dashboard.Markup.Fragment
import Dashboard.Tools.Control
import Dashboard.Tools.Snapshot
/-!
# The view of the tools tab

The modules, the tools of one of them with a switch each, and the configuration.
-/

namespace Dashboard.Tools

open Markup Markup.Node

/-- What the user has selected. -/
structure Selection where
  module : Option String := none
  tool : Option String := none
  deriving DecidableEq, Repr

/-- An addition to the classes of an element that is selected. -/
def selectedClass (selected : Bool) : String := if selected then " selected" else ""

/-- The entry of a module in the list of modules. -/
def Kit.item (k : Kit) (selected : Bool) : Node Empty :=
  element .li
    [ .plain .classes ("module-item" ++ selectedClass selected)
    , .plain .action Verb.selectModule.word
    , .data "module" k.name ]
    [ text (k.name ++ " ")
    , classed .span "muted" [text (toString k.enabledCount ++ "/" ++ toString k.tools.length)] ]

/-- The row of a tool. -/
def Tool.row (t : Tool) (module : String) (selected : Bool) : Node Empty :=
  classed .tr ("tool-row" ++ selectedClass selected)
    [ bare .td [toggle Verb.toggleTool.word t.enabled [("module", module), ("tool", t.name)]]
    , element .td [.plain .action Verb.selectTool.word, .data "tool" t.name] [text t.name] ]

/-- The details of a tool. -/
def Tool.detail (t : Tool) : Node Empty :=
  classed .div "tool-detail"
    [ labelled .h4 t.name
    , labelled .p (if t.description = "" then "No description" else t.description) ]

/-- The tools of a module. -/
def Kit.view (k : Kit) (selected : Option String) : List (Node Empty) :=
  (if k.description = "" then [] else [remark k.description]) ++
  if k.tools.isEmpty then [emptyState "tools" "This module has no tools"]
  else
    plainTable "tool-list" (k.tools.map fun t => t.row k.name (selected == some t.name)) ::
    (selected.bind k.tool?).toList.map Tool.detail

/-- The modules and the tools of the one shown. -/
def Snapshot.modulesView (s : Snapshot) (selection : Selection) : Node Empty :=
  match s.modules with
  | none => emptyState "tools" "Tool modules unavailable"
  | some [] => emptyState "tools" "No tool modules registered"
  | some modules =>
    let active := s.active? selection.module
    classed .div "tools-layout"
      [ classed .ul "module-list"
          (modules.map fun k => k.item (active.map (·.name) == some k.name))
      , classed .div "tool-pane" ((active.map (·.view selection.tool)).getD []) ]

/-- The configuration. -/
def settingsView : Option (List (String × String)) → Node Empty
  | none => emptyState "settings-gear" "Configuration unavailable"
  | some [] => emptyState "settings-gear" "No settings"
  | some entries =>
    plainTable "tool-settings"
      (entries.map fun e => tableRow [[labelled .code e.1], [text e.2]])

/-- The view of a snapshot. -/
def Snapshot.view (s : Snapshot) (selection : Selection) : List (Node Empty) :=
  [ panelSectionWith "Modules" [actionButton "Refresh" Verb.refresh.word []]
      [s.modulesView selection]
  , panelSection "Configuration" [settingsView s.settings] ]

end Dashboard.Tools
