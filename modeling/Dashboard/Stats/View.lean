import Dashboard.Figure.Quantity
import Dashboard.Markup.Fragment
import Dashboard.Stats.Control
import Dashboard.Stats.Snapshot
import Dashboard.Time.Instant
/-!
# The view of the usage tab

The figures on usage, and the modules of the memory store with the details of the one selected.
-/

namespace Dashboard.Stats

open Markup Markup.Node

/-- The figures on usage. -/
def Usage.view (u : Usage) (now : Time.Instant) : List (Node Empty) :=
  statGrid
    [ ("Sessions", Figure.abbreviated u.sessions)
    , ("Requests", Figure.abbreviated u.requests)
    , ("Tokens in", Figure.abbreviated u.tokensIn)
    , ("Tokens out", Figure.abbreviated u.tokensOut) ] ::
  u.updatedAt.toList.map fun t => remark ("Updated " ++ Time.relative t now)

/-- A bar of which a share is filled. -/
def bar (classes : String) (percent : Nat) : Node Empty :=
  classed .div classes [element .div [.plain .style ("width: " ++ toString percent ++ "%")] []]

/-- The row of a module. -/
def Store.row (m : Store) (total : Nat) (selected : Bool) : Node Empty :=
  element .tr
    [ .plain .classes ("module-row" ++ if selected then " selected" else "")
    , .plain .action Verb.selectModule.word
    , .data "module" m.name ]
    [ bare .td [text m.name]
    , bare .td [text (Figure.bytes m.bytes)]
    , bare .td [text (Figure.abbreviated m.entries)]
    , bare .td [bar "share-bar" (Figure.share m.bytes total)] ]

/-- The details of a module. -/
def Store.detail (m : Store) (total : Nat) : Node Empty :=
  classed .div "module-detail"
    [ labelled .h4 m.name
    , labelled .p
        (Figure.bytes m.bytes ++ " in " ++ Figure.abbreviated m.entries ++ " entries (" ++
          toString (Figure.share m.bytes total) ++ "% of store)")
    , actionButton "Clear module" Verb.clearModule.word [("module", m.name)] ]

/-- The memory store. -/
def Snapshot.memoryView (s : Snapshot) (selected : Option String) : List (Node Empty) :=
  match s.modules with
  | none => [emptyState "database" "Memory usage unavailable"]
  | some [] => [emptyState "database" "The memory store is empty"]
  | some modules =>
    [ remark
        (Figure.bytes s.totalBytes ++ " across " ++ toString modules.length ++ " modules")
    , table "memory-modules" ["Module", "Size", "Entries", "Share"]
        (modules.map fun m => m.row s.totalBytes (selected == some m.name)) ] ++
    (selected.bind s.module?).toList.map (·.detail s.totalBytes)

/-- The view of a snapshot. -/
def Snapshot.view (s : Snapshot) (selected : Option String) (now : Time.Instant) :
    List (Node Empty) :=
  [ panelSectionWith "Usage" [actionButton "Refresh" Verb.refresh.word []]
      (match s.usage with
        | some u => u.view now
        | none => [emptyState "graph" "Usage summary unavailable"])
  , panelSection "Memory" (s.memoryView selected) ]

/-- The style sheet of the tab. -/
def styles : String :=
  ".share-bar \x7b background: var(--vscode-editorWidget-background); height: 6px; \x7d\n" ++
  ".share-bar > div \x7b background: var(--vscode-progressBar-background); height: 100%; \x7d\n" ++
  ".module-row.selected \x7b background: var(--vscode-list-activeSelectionBackground); \x7d"

end Dashboard.Stats
