import Dashboard.Wiring.Binding
/-!
# The controls of the usage tab
-/

namespace Dashboard.Stats

/-- A command of the tab. -/
inductive Verb where
  | refresh
  | retry
  | selectModule
  | clearModule
  deriving DecidableEq, Repr

namespace Verb

def all : List Verb := [refresh, retry, selectModule, clearModule]

/-- The name of the command. -/
def word : Verb → String
  | refresh => "refreshStats"
  | retry => "retryStats"
  | selectModule => "selectStatsModule"
  | clearModule => "clearMemoryModule"

def ofWord? (s : String) : Option Verb := all.find? (·.word == s)

end Verb

/-- What the elements of the tab do. -/
def bindings : List Wiring.Binding :=
  [ .click Verb.refresh.word []
  , .click Verb.retry.word []
  , .click Verb.selectModule.word ["module"]
  , .click Verb.clearModule.word ["module"] ]

end Dashboard.Stats
