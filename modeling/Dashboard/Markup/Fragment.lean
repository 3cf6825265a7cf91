import Dashboard.Badge
import Dashboard.Markup.Basic
/-!
# Fragments of views

What the views of several tabs are put together from: sections, buttons, switches, figures and
tables, and what stands in the place of data that are missing.
-/

namespace Dashboard.Markup

namespace Node

variable {ρ : Type}

/-- An element with a class. -/
def classed (tag : Tag) (classes : String) (children : List (Node ρ)) : Node ρ :=
  element tag [.plain .classes classes] children

/-- An element without attributes. -/
def bare (tag : Tag) (children : List (Node ρ)) : Node ρ :=
  element tag [] children

/-- An element without attributes that holds nothing but text. -/
def labelled (tag : Tag) (s : String) : Node ρ :=
  element tag [] [text s]

end Node

open Node

variable {ρ : Type}

/-- The classes of an icon. -/
def iconClasses (name : String) : String := "codicon codicon-" ++ name

def icon (name : String) : Node ρ :=
  classed .span (iconClasses name) []

/-- Stands where a list or a figure has nothing to show. -/
def emptyState (iconName message : String) : Node ρ :=
  classed .div "empty-state" [icon iconName, labelled .p message]

/-- A less important remark. -/
def remark (message : String) : Node ρ :=
  classed .p "muted" [text message]

/-- A button for an action, with the data that the action needs. -/
def actionButton (label action : String) (data : List (String × String)) : Node ρ :=
  element .button (.plain .action action :: Attribute.ofPairs data) [text label]

/-- A switch for an action, with the data that the action needs. -/
def toggle (action : String) (on : Bool) (data : List (String × String)) : Node ρ :=
  element .input
    ([.plain .kind "checkbox", .plain .action action] ++ Attribute.ofPairs data ++
      Attribute.flagIf on .checked) []

/-- A choice among values with labels, of which the one that `chosen` names is selected. -/
def choice (action : String) (options : List (String × String)) (chosen : String) : Node ρ :=
  element .select [.plain .action action] <| options.map fun o =>
    element .option (.plain .value o.1 :: Attribute.flagIf (o.1 == chosen) .selected) [text o.2]

/-- A part of a view under a title. -/
def panelSection (title : String) (children : List (Node ρ)) : Node ρ :=
  classed .part "panel-section" (labelled .h3 title :: children)

/-- A part of a view under a title with controls beside it. -/
def panelSectionWith (title : String) (actions children : List (Node ρ)) : Node ρ :=
  classed .part "panel-section"
    (classed .div "section-header" [labelled .h3 title, classed .div "section-actions" actions] ::
      children)

/-- Figures with their labels. -/
def statGrid (items : List (String × String)) : Node ρ :=
  classed .div "stat-grid" <| items.map fun item =>
    classed .div "stat"
      [classed .span "stat-value" [text item.2], classed .span "stat-label" [text item.1]]

/-- The row of column titles of a table. -/
def tableHead (titles : List String) : Node ρ :=
  bare .thead [bare .tr (titles.map fun t => bare .th (if t = "" then [] else [text t]))]

/-- A row of a table, by the content of its cells. -/
def tableRow (cells : List (List (Node ρ))) : Node ρ :=
  bare .tr (cells.map (bare .td))

/-- A table with column titles. -/
def table (classes : String) (titles : List String) (rows : List (Node ρ)) : Node ρ :=
  classed .table classes [tableHead titles, bare .tbody rows]

/-- A table without column titles. -/
def plainTable (classes : String) (rows : List (Node ρ)) : Node ρ :=
  classed .table classes [bare .tbody rows]

/-- A badge, or nothing. -/
def badge : Option Badge → List (Node ρ)
  | some b => [classed .span ("badge " ++ b.style.cssClass) [text b.text]]
  | none => []

/-! ### Views of a tab as a whole -/

/-- The view of a tab that was never loaded and whose last load failed. -/
def errorView (message : String) (attempt cap : Nat) (retry : String) : Node ρ :=
  classed .div "error-state"
    [ icon "error"
    , classed .p "error-message" [text message]
    , classed .p "retry-count" [text ("Attempt " ++ toString attempt ++ " of " ++ toString cap)]
    , element .button [.plain .classes "retry-button", .plain .action retry] [text "Retry"] ]

/-- The view of a tab that is loading for the first time. -/
def loadingView (what : String) : Node ρ :=
  classed .div "loading-state"
    [ classed .span (iconClasses "loading" ++ " codicon-modifier-spin") []
    , labelled .p ("Loading " ++ what ++ "...") ]

/-- Stands above data that could not be refreshed. -/
def staleBanner (message : String) : Node ρ :=
  classed .div "stale-banner"
    [icon "warning", text ("Refresh failed, showing previous data: " ++ message)]

/-- The whole view of a tab. -/
def tabContent (id : String) (children : List (Node ρ)) : Node ρ :=
  element .div [.plain .classes "tab-content", .plain .tabId id] children

end Dashboard.Markup
