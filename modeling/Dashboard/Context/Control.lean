import Dashboard.Wiring.Binding
/-!
# The controls of the context tab
-/

namespace Dashboard.Context

/-- A command of the tab. -/
inductive Verb where
  | refresh
  | retry
  | clear
  | pin
  deriving DecidableEq, Repr

namespace Verb

def all : List Verb := [refresh, retry, clear, pin]

/-- The name of the command. -/
def word : Verb → String
  | refresh => "refreshContext"
  | retry => "retryContext"
  | clear => "clearContext"
  | pin => "pinContextItem"

def ofWord? (s : String) : Option Verb := all.find? (·.word == s)

end Verb

/-- What the elements of the tab do. -/
def bindings : List Wiring.Binding :=
  [ .click Verb.refresh.word []
  , .click Verb.retry.word []
  , .click Verb.clear.word []
  , .toggle Verb.pin.word ["id"] "pinned" ]

end Dashboard.Context
