import Dashboard.Wiring.Binding
/-!
# The controls of the tools tab
-/

namespace Dashboard.Tools

/-- A command of the tab. -/
inductive Verb where
  | refresh
  | retry
  | selectModule
  | selectTool
  | toggleTool
  deriving DecidableEq, Repr

namespace Verb

def all : List Verb := [refresh, retry, selectModule, selectTool, toggleTool]

/-- The name of the command. -/
def word : Verb → String
  | refresh => "refreshTools"
  | retry => "retryTools"
  | selectModule => "selectToolModule"
  | selectTool => "selectTool"
  | toggleTool => "toggleTool"

def ofWord? (s : String) : Option Verb := all.find? (·.word == s)

end Verb

/-- What the elements of the tab do. -/
def bindings : List Wiring.Binding :=
  [ .click Verb.refresh.word []
  , .click Verb.retry.word []
  , .click Verb.selectModule.word ["module"]
  , .click Verb.selectTool.word ["tool"]
  , .toggle Verb.toggleTool.word ["module", "tool"] "enabled" ]

end Dashboard.Tools
