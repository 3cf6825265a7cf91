import Dashboard.Badge
import Dashboard.Json.Printer
import Dashboard.Tab.Identity
/-!
# Frames

What the view embedding the dashboard is sent, one JSON object on a line.

* `Frame.Rendering` — a tab as it is drawn.
* `Frame.Summary` — the button of a tab.
* `Frame` — a rendering, the bar of buttons, or a whole document.
* `Frame.line` — the line that is written.
-/

namespace Dashboard

/-- A tab as it is drawn. -/
structure Frame.Rendering where
  id : String
  html : String
  script : String
  styles : String
  badge : Option Badge
  deriving DecidableEq, Repr

/-- The button of a tab. -/
structure Frame.Summary where
  identity : Tab.Identity
  badge : Option Badge
  deriving DecidableEq, Repr

/-- What is sent. -/
inductive Frame where
  | render (r : Frame.Rendering)
  | bar (tabs : List Frame.Summary) (active : Option String)
  | document (html : String)
  deriving DecidableEq, Repr

namespace Frame

/-- A text, or null where there is none. -/
def textOrNull : Option String → Json
  | some s => .string s
  | none => .null

def Rendering.members (r : Rendering) : Json.Members :=
  [ ("tabId", .string r.id)
  , ("html", .string r.html)
  , ("script", .string r.script)
  , ("styles", .string r.styles)
  , ("badge", Badge.optionToJson r.badge) ]

def Summary.toJson (s : Summary) : Json :=
  .object
    [ ("id", .string s.identity.id)
    , ("label", .string s.identity.label)
    , ("icon", .string s.identity.icon)
    , ("badge", Badge.optionToJson s.badge) ]

def toJson : Frame → Json
  | render r => .object (("type", .string "render") :: r.members)
  | bar tabs active =>
    .object
      [ ("type", .string "tabs")
      , ("tabs", .array (tabs.map Summary.toJson))
      , ("active", textOrNull active) ]
  | document html => .object [("type", .string "document"), ("html", .string html)]

/-- The line that is written for a frame, with its line feed. -/
def line (f : Frame) : String := f.toJson.print ++ "\n"

/-- All that is written for some frames. -/
def lines (fs : List Frame) : String := String.join (fs.map line)

end Frame

end Dashboard
