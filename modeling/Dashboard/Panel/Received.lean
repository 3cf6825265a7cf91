import Dashboard.Json.Parser
import Dashboard.Panel.Frame
/-!
# Frames as they are received

How the view embedding the dashboard reads what it is sent. All members of a frame have to be there;
where there is no badge, or no active tab, they are null.

* `Frame.ofJson?` — the frame in a value, `Frame.read?` — the frame in a text.
-/

namespace Dashboard

/-- The badge in a value. -/
def Badge.ofJson? (x : Json) : Option Badge := do
  let text ← (← x.member? "text").string?
  let style ← Style.ofName? (← (← x.member? "style").string?)
  return { text, style }

namespace Frame

/-- What a reader makes of a value, or nothing where there is null. -/
def orNull? {α : Type} (read? : Json → Option α) : Json → Option (Option α)
  | .null => some none
  | x => (read? x).map some

/-- The text in a value under a name. -/
def textIn? (x : Json) (name : String) : Option String := (x.member? name).bind Json.string?

/-- The badge in a value, which may be null. -/
def badgeIn? (x : Json) : Option (Option Badge) := (x.member? "badge").bind (orNull? Badge.ofJson?)

def Rendering.ofJson? (x : Json) : Option Rendering := do
  let id ← textIn? x "tabId"
  let html ← textIn? x "html"
  let script ← textIn? x "script"
  let styles ← textIn? x "styles"
  let badge ← badgeIn? x
  return { id, html, script, styles, badge }

def Summary.ofJson? (x : Json) : Option Summary := do
  let id ← textIn? x "id"
  let label ← textIn? x "label"
  let icon ← textIn? x "icon"
  let badge ← badgeIn? x
  return { identity := { id, label, icon }, badge }

/-- The buttons in a value. -/
def summariesIn? : Json → Option (List Summary)
  | .array items => items.mapM Summary.ofJson?
  | _ => none

/-- The frame in a value. -/
def ofJson? (x : Json) : Option Frame := do
  let type ← textIn? x "type"
  if type = "render" then return .render (← Rendering.ofJson? x)
  else if type = "tabs" then
    let tabs ← summariesIn? (← x.member? "tabs")
    let active ← orNull? Json.string? (← x.member? "active")
    return .bar tabs active
  else if type = "document" then return .document (← textIn? x "html")
  else none

/-- The frame in a text. -/
def read? (text : String) : Option Frame := (Json.readRaw? text).bind ofJson?

end Frame

end Dashboard
