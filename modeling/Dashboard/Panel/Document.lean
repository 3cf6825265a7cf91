import Dashboard.Markup.Printer
import Dashboard.Panel.Basic
import Dashboard.Panel.Frame
import Dashboard.Wiring.Bootstrap
/-!
# How the panel is drawn

* `Panel.render?` — a tab as it is drawn, `Panel.bar` — the bar of buttons.
* `Panel.document` — a document of its own with all tabs, of which only the active one is shown.
-/

namespace Dashboard

/-- Style sheets and scripts, which stand in a document as they are. -/
inductive Markup.Embedded where
  | styleSheet (text : String)
  | script (text : String)

/-- The text of a style sheet or a script. -/
def Markup.Embedded.print : Markup.Embedded → String
  | styleSheet text => "<style>" ++ text ++ "</style>"
  | script text => "<script>" ++ text ++ "</script>"

/-- The tab as it is drawn. -/
def Tab.rendering (t : Tab) (now : Time.Instant) : Frame.Rendering :=
  { id := t.id
    html := (t.content now).html
    script := t.script
    styles := t.styles
    badge := t.badge }

namespace Panel

open Markup Markup.Node

/-- A tab as it is drawn. -/
def render? (p : Panel) (id : String) (now : Time.Instant) : Option Frame.Rendering :=
  (p.tab? id).map (·.rendering now)

/-- The bar of buttons. -/
def bar (p : Panel) : Frame :=
  .bar (p.tabs.map fun t => ⟨t.identity, t.badge⟩) p.active

/-- The name by which the buttons of the bar are told from elements of tabs. -/
def hostId : String := "host"

/-- What the buttons of the bar do. -/
def hostBindings : List Wiring.Binding :=
  [.click selectWord ["tab"], .click refreshWord []]

/-- An addition to the classes of what belongs to the active tab. -/
def activeClass (active : Bool) : String := if active then " active" else ""

/-- The button of a tab. -/
def tabButton (t : Tab) (active : Bool) : Node Embedded :=
  element .button
    [ .plain .classes ("tab-button" ++ activeClass active)
    , .plain .action selectWord
    , .data "tab" t.id ]
    ([icon t.identity.icon, text t.identity.label] ++ badge t.badge)

/-- The panel of a tab. -/
def tabPanel (t : Tab) (active : Bool) (now : Time.Instant) : Node Embedded :=
  element .part
    ([ .plain .classes ("tab-panel" ++ activeClass active)
     , .plain .id ("panel-" ++ t.id)
     , .plain .tabId t.id ] ++ Attribute.flagIf (!active) .hidden)
    [(t.content now).lift]

/-- The style sheets of all tabs, each on lines of its own. -/
def styleSheet (p : Panel) : String :=
  String.join ((p.tabs.filter (·.styles ≠ "")).map fun t => t.styles ++ "\n")

/-- The scripts of the document. -/
def scripts (p : Panel) : List String :=
  [Wiring.bootstrap, Wiring.script hostId hostBindings] ++ p.tabs.map Tab.script

/-- Whether a tab is the active one. -/
def isActive (p : Panel) (t : Tab) : Bool := p.active == some t.id

/-- The bar of buttons in the document. -/
def navigation (p : Panel) : Node Embedded :=
  element .nav [.plain .classes "tab-bar", .plain .tabId hostId]
    (p.tabs.map (fun t => tabButton t (p.isActive t)) ++
      [element .button [.plain .classes "refresh-all", .plain .action refreshWord]
        [text "Refresh all"]])

/-- The document as a tree. -/
def documentTree (p : Panel) (now : Time.Instant) : Node Embedded :=
  bare .html
    [ bare .head
        [ element .metadata [.plain .charset "utf-8"] []
        , labelled .title "devboard"
        , foreign (.styleSheet p.styleSheet) ]
    , bare .body
        (p.navigation ::
          (p.tabs.map (fun t => tabPanel t (p.isActive t) now) ++
            p.scripts.map fun s => foreign (.script s))) ]

/-- A document with all tabs. -/
def document (p : Panel) (now : Time.Instant) : String :=
  "<!DOCTYPE html>" ++ (p.documentTree now).print Embedded.print

end Panel

end Dashboard
