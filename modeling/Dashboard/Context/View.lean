import Dashboard.Context.Control
import Dashboard.Context.Snapshot
import Dashboard.Figure.Quantity
import Dashboard.Markup.Fragment
/-!
# The view of the context tab

How much of the context is used, and its parts with a switch each.
-/

namespace Dashboard.Context

open Markup Markup.Node

/-- From this share on, use is critical. -/
def criticalPercent : Nat := 90

/-- How much of the context is used, in figures. -/
def Snapshot.figures (s : Snapshot) : List (String × String) :=
  [ ("Model", s.model.getD "unknown")
  , ("Tokens used", Figure.abbreviated s.used)
  , ("Limit", (s.limit.map Figure.abbreviated).getD "-") ]

/-- How much of the context is used, as a bar that is full at one hundred per cent. -/
def usageBar (percent : Nat) : List (Node Empty) :=
  [ classed .div ("usage-bar" ++ if criticalPercent ≤ percent then " usage-critical" else "")
      [element .div [.plain .style ("width: " ++ toString (min percent 100) ++ "%")] []]
  , remark (toString percent ++ "% of context in use") ]

/-- The row of a part. -/
def Item.row (i : Item) : Node Empty :=
  tableRow
    [ [toggle Verb.pin.word i.pinned [("id", i.id)]]
    , [text i.label]
    , [classed .span "kind" [text i.kind]]
    , [text (Figure.abbreviated i.tokens)] ]

/-- The view of a snapshot. -/
def Snapshot.view (s : Snapshot) : List (Node Empty) :=
  [ panelSectionWith "Usage"
      [actionButton "Clear" Verb.clear.word [], actionButton "Refresh" Verb.refresh.word []]
      (statGrid s.figures :: (s.usagePercent?.map usageBar).getD [])
  , panelSection "Items"
      [ if s.items.isEmpty then emptyState "layers" "The context is empty"
        else table "context-items" ["Pin", "Item", "Kind", "Tokens"] (s.items.map Item.row) ] ]

/-- The style sheet of the tab. -/
def styles : String :=
  ".usage-bar \x7b background: var(--vscode-editorWidget-background); height: 8px; \x7d\n" ++
  ".usage-bar > div \x7b background: var(--vscode-progressBar-background); height: 100%; \x7d\n" ++
  ".usage-critical > div \x7b background: var(--vscode-errorForeground); \x7d"

end Dashboard.Context
