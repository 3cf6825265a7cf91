import Dashboard.Figure.Duration
import Dashboard.Figure.Quantity
import Dashboard.Markup.Fragment
import Dashboard.Slop.Control
import Dashboard.Slop.Filter
import Dashboard.Time.Instant
/-!
# The view of the findings tab

The state of the loop with its figures, and the findings that pass the filter.
-/

namespace Dashboard.Slop

open Markup Markup.Node

/-- What the loop is doing. -/
def LoopStatus.activity (s : LoopStatus) : String :=
  if s.scanning then "Scanning" else if s.running then "Idle" else "Stopped"

/-- The state of the loop in figures. -/
def LoopStatus.figures (s : LoopStatus) (now : Time.Instant) : List (String × String) :=
  [ ("State", s.activity)
  , ("Last scan", Time.relativeOr s.lastScan now "never")
  , ("Next scan", Time.relativeOr s.nextScan now "-")
  , ("Interval", (s.interval.map Figure.duration).getD "-")
  , ("Files scanned", (s.filesScanned.map Figure.abbreviated).getD "-") ]

/-- The figures over all findings. -/
def Statistics.figures (t : Statistics) : List (String × String) :=
  [ ("Total findings", Figure.abbreviated t.total)
  , ("Files affected", Figure.abbreviated t.filesAffected) ] ++
  t.bySeverity.map fun (severity, n) => (severity, Figure.abbreviated n)

/-- The section on the loop. -/
def loopSection (status : Option LoopStatus) (now : Time.Instant) : Node Empty :=
  panelSectionWith "Scan loop"
    [ bare .label
        [toggle Verb.toggleLoop.word ((status.map (·.running)).getD false) [], text " Loop"]
    , actionButton "Scan now" Verb.scanNow.word []
    , actionButton "Refresh" Verb.refresh.word [] ] <|
    (match status.filter (·.reported) with
      | some s => statGrid (s.figures now)
      | none => emptyState "debug-pause" "Scan loop status unavailable") ::
    ((status.bind (·.statistics)).toList.map fun t => statGrid t.figures)

/-- The row of a finding. -/
def Finding.row (f : Finding) : Node Empty :=
  tableRow
    [ [classed .span ("severity severity-" ++ f.severity) [text f.severity]]
    , [labelled .code f.location]
    , [text f.rule]
    , [text f.message]
    , f.id.toList.map fun id => actionButton "Dismiss" Verb.dismiss.word [("id", id)] ]

/-- The field for the text to be searched for. -/
def searchField (query : Option String) : Node Empty :=
  element .input
    [ .plain .kind "search"
    , .plain .placeholder "Filter findings"
    , .plain .action Verb.search.word
    , .plain .value (query.getD "") ] []

/-- The choice of the severity that is shown. -/
def severityChoice (severity : Option String) : Node Empty :=
  choice Verb.filterSeverity.word ((anySeverity :: severities).map fun s => (s, s))
    (severity.getD anySeverity)

/-- The findings that pass the filter. -/
def findingsTable (filter : Filter) : Option (List Finding) → List (Node Empty)
  | none => [emptyState "warning" "Findings unavailable"]
  | some [] => [emptyState "pass" "No findings"]
  | some findings =>
    match filter.visible findings with
    | [] => [emptyState "filter" "No findings match the current filter"]
    | visible =>
      [ remark ("Showing " ++ toString visible.length ++ " of " ++ toString findings.length)
      , table "slop-findings" ["Severity", "Location", "Rule", "Message", ""]
          (visible.map Finding.row) ]

/-- The section on the findings. -/
def findingsSection (findings : Option (List Finding)) (filter : Filter) : Node Empty :=
  panelSectionWith "Findings" [searchField filter.query, severityChoice filter.severity]
    (findingsTable filter findings)

/-- The view of a snapshot. -/
def Snapshot.view (s : Snapshot) (filter : Filter) (now : Time.Instant) : List (Node Empty) :=
  if s.hasAnyData then [loopSection s.status now, findingsSection s.findings filter]
  else [emptyState "search" "The slop daemon returned no data"]

/-- The style sheet of the tab. -/
def styles : String :=
  ".severity-error \x7b color: var(--vscode-errorForeground); \x7d\n" ++
  ".severity-warning \x7b color: var(--vscode-editorWarning-foreground); \x7d"

end Dashboard.Slop
