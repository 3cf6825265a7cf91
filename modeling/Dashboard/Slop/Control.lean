import Dashboard.Wiring.Binding
/-!
# The controls of the findings tab
-/

namespace Dashboard.Slop

/-- A command of the tab. -/
inductive Verb where
  | refresh
  | retry
  | scanNow
  | toggleLoop
  | dismiss
  | search
  | filterSeverity
  deriving DecidableEq, Repr

namespace Verb

def all : List Verb := [refresh, retry, scanNow, toggleLoop, dismiss, search, filterSeverity]

/-- The name of the command. -/
def word : Verb → String
  | refresh => "refreshSlop"
  | retry => "retrySlop"
  | scanNow => "slopScanNow"
  | toggleLoop => "slopToggleLoop"
  | dismiss => "slopDismissFinding"
  | search => "slopSearch"
  | filterSeverity => "slopFilterSeverity"

def ofWord? (s : String) : Option Verb := all.find? (·.word == s)

end Verb

/-- What the elements of the tab do. -/
def bindings : List Wiring.Binding :=
  [ .click Verb.refresh.word []
  , .click Verb.retry.word []
  , .click Verb.scanNow.word []
  , .click Verb.dismiss.word ["id"]
  , .toggle Verb.toggleLoop.word [] "enabled"
  , .choose Verb.filterSeverity.word "severity"
  , .choose Verb.search.word "query"
  , .submit Verb.search.word "query" ]

end Dashboard.Slop
