import Dashboard.Command
import Dashboard.Daemon
import Dashboard.Json.Printer
import Dashboard.Notice
/-!
# How a tab reacts to a command

* `Tab.Query` — a call that a load makes.
* `Tab.Mutation` — a call that changes something.
* `Tab.Reaction` — what a command asks for: nothing, a new drawing, a load, or a mutation, after
  which the tab is loaded again.
* `Tab.Refusal` — why a command that the tab knows was ignored.
-/

namespace Dashboard.Tab

/-- A call that only asks. -/
structure Query where
  method : String
  params : Option Json := none

/-- A call that changes something. -/
structure Mutation where
  daemon : Daemon
  method : String
  params : Option Json := none

/-- The daemon and the method. -/
def Mutation.description (m : Mutation) : String := m.daemon.name ++ "." ++ m.method

/-- What a command may lack. -/
inductive Need where
  | targetState
  | jobName
  | limit
  | id
  | module
  | toolName
  deriving DecidableEq, Repr

def Need.text : Need → String
  | targetState => "a target state"
  | jobName => "a job name"
  | limit => "a limit"
  | id => "an id"
  | module => "a module"
  | toolName => "a tool name"

/-- Why a command is refused. -/
structure Refusal where
  command : String
  /-- What the command is about, if it says so. -/
  subject : Option String := none
  need : Need
  deriving DecidableEq, Repr

def Refusal.message (r : Refusal) : String :=
  r.command ++ (match r.subject with | some s => " " ++ s | none => "") ++
    " without " ++ r.need.text

/-- What a command asks for. -/
inductive Reaction where
  /-- The command is not one of the tab's, or it is refused. -/
  | ignored (refusal : Option Refusal)
  | redraw
  | reload
  | change (m : Mutation)

namespace Reaction

def isHandled : Reaction → Bool
  | ignored _ => false
  | _ => true

/-- The command lacks something. -/
def lacking (command : String) (need : Need) : Reaction :=
  ignored (some { command, need })

/-- The command lacks something although it says what it is about. -/
def lackingFor (command subject : String) (need : Need) : Reaction :=
  ignored (some { command, subject := some subject, need })

def notices : Reaction → List Notice
  | ignored (some r) => [.warning r.message]
  | _ => []

end Reaction

/-- The state that a switch is to have: the one asked for, or else the opposite of the present. -/
def targetState? (asked present : Option Bool) : Option Bool :=
  asked.or (present.map (!·))

end Dashboard.Tab
