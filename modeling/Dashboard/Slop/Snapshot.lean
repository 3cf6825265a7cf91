import Dashboard.Payload
import Dashboard.Tab.Report
import Dashboard.Text.Basic
/-!
# What is known of the findings in the code

* `Slop.severityRank` — how severe a finding is; words that are no severity come last.
* `Slop.Finding`, `Slop.Statistics`, `Slop.LoopStatus` — a finding, the figures over all findings,
  and the state of the loop that scans the code.
* `Slop.Snapshot` — all of it, `Slop.Snapshot.ofReport` — as a load brought it. The state of the loop
  and the figures come from different calls and are put together.
-/

namespace Dashboard.Slop

/-- The method that tells the state of the loop. -/
def statusMethod : String := "getStatus"

/-- The method that lists the findings. -/
def findingsMethod : String := "getFindings"

/-- The method that tells the figures over all findings. -/
def statisticsMethod : String := "getStatistics"

/-- The severities, the most severe first. -/
def severities : List String := ["error", "warning", "info", "hint"]

/-- The place of a severity, in any case, among the severities. -/
def severityRank (s : String) : Nat :=
  (severities.findIdx? fun t => Text.eqIgnoringCase t s).getD severities.length

/-- Severities with counts, by rank and then by name. -/
def severityOrder (a b : String × Nat) : Ordering :=
  (compare (severityRank a.1) (severityRank b.1)).then (compare a.1 b.1)

/-- Figures over all findings. -/
structure Statistics where
  total : Nat := 0
  filesAffected : Nat := 0
  /-- The number of findings of each severity, the most severe first. -/
  bySeverity : List (String × Nat) := []

namespace Statistics

def bySeverityFields : Aliases := ["bySeverity", "by_severity"]
def totalFields : Aliases := ["total", "totalFindings", "total_findings"]
def filesAffectedFields : Aliases := ["filesAffected", "files_affected"]

/-- The number of findings of a severity: a count, or a text that spells one. -/
def share? : Json → Option Nat
  | .number n => n.count?
  | .string s => readCount? s
  | _ => none

/-- The figures that a value describes. Severities whose number is none are left out. -/
def ofJson (x : Json) : Statistics where
  total := x.countOr totalFields 0
  filesAffected := x.countOr filesAffectedFields 0
  bySeverity :=
    (((x.objectOf? bySeverityFields).getD []).filterMap fun m =>
      (share? m.2).map (Text.lowerAscii m.1, ·)).mergeSort fun a b => (severityOrder a b).isLE

end Statistics

/-- The state of the loop that scans the code. -/
structure LoopStatus where
  /-- Whether the daemon told the state of the loop; if not, all but the figures is unknown. -/
  reported : Bool := false
  running : Bool := false
  scanning : Bool := false
  lastScan : Option Time.Instant := none
  nextScan : Option Time.Instant := none
  /-- The time between two scans, in milliseconds. -/
  interval : Option Nat := none
  filesScanned : Option Nat := none
  statistics : Option Statistics := none

namespace LoopStatus

def runningFields : Aliases := ["running", "enabled", "loopRunning"]
def scanningFields : Aliases := ["scanning", "isScanning", "scanInProgress"]
def lastScanFields : Aliases := ["lastScanAt", "last_scan_at", "lastScan"]
def nextScanFields : Aliases := ["nextScanAt", "next_scan_at", "nextScan"]
def intervalFields : Aliases := ["intervalMs", "interval_ms", "interval"]
def filesScannedFields : Aliases := ["filesScanned", "files_scanned"]

/-- The state that a value describes. -/
def ofJson (x : Json) : LoopStatus where
  reported := true
  running := x.truthOr runningFields false
  scanning := x.truthOr scanningFields false
  lastScan := x.instantOf? lastScanFields
  nextScan := x.instantOf? nextScanFields
  interval := x.countOf? intervalFields
  filesScanned := x.countOf? filesScannedFields

/-- The state and the figures put together; unknown if both are. -/
def merge (status : Option LoopStatus) (statistics : Option Statistics) : Option LoopStatus :=
  match statistics with
  | some t => some { status.getD {} with statistics := some t }
  | none => status

end LoopStatus

/-- A finding. -/
structure Finding where
  /-- A finding without an id cannot be dismissed. -/
  id : Option String
  file : String
  line : Option Nat
  rule : String
  /-- In lower case. -/
  severity : String
  message : String

namespace Finding

def idFields : Aliases := ["id", "findingId"]
def fileFields : Aliases := ["file", "path", "filePath"]
def lineFields : Aliases := ["line", "lineNumber"]
def ruleFields : Aliases := ["rule", "ruleId", "kind"]
def severityFields : Aliases := ["severity", "level"]
def messageFields : Aliases := ["message", "description"]

/-- The finding that a value describes. -/
def ofJson (x : Json) : Finding where
  id := x.wordOf? idFields
  file := x.textOr fileFields ""
  line := x.countOf? lineFields
  rule := x.textOr ruleFields ""
  severity := Text.lowerAscii (x.textOr severityFields "info")
  message := x.textOr messageFields ""

/-- The file, with the line if it is known. -/
def location (f : Finding) : String :=
  match f.line with
  | some n => f.file ++ ":" ++ toString n
  | none => f.file

/-- Where a finding stands within its file: one without a line comes first. -/
def linePlace (f : Finding) : Nat :=
  match f.line with
  | some n => n + 1
  | none => 0

/-- Findings by severity, then by file, then by line. -/
def order (a b : Finding) : Ordering :=
  (compare (severityRank a.severity) (severityRank b.severity)).then <|
    (compare a.file b.file).then (compare a.linePlace b.linePlace)

end Finding

/-- What the daemon told. -/
structure Snapshot where
  status : Option LoopStatus := none
  /-- The findings, the most severe first, if they came. -/
  findings : Option (List Finding) := none

namespace Snapshot

def findingsFields : Aliases := ["findings", "items"]

/-- The findings in a list, sorted. -/
def findingsOf (x : Json) : List Finding :=
  ((x.listing findingsFields).map Finding.ofJson).mergeSort fun a b => (a.order b).isLE

/-- What a load brought. A call that brought null counts as one that failed. -/
def ofReport (r : Tab.Report) : Snapshot where
  status :=
    LoopStatus.merge ((r.contribution? statusMethod).map LoopStatus.ofJson)
      ((r.contribution? statisticsMethod).map Statistics.ofJson)
  findings := (r.contribution? findingsMethod).map findingsOf

def hasAnyData (s : Snapshot) : Bool := s.status.isSome || s.findings.isSome

def isScanning (s : Snapshot) : Bool := (s.status.map (·.scanning)).getD false

def findingCount (s : Snapshot) : Nat := (s.findings.map List.length).getD 0

end Snapshot

end Dashboard.Slop
