import Dashboard.Command.Feed
import Dashboard.Json.Printer
/-!
# Commands as they are written to a stream

* `Command.DoublesReread` — commands whose doubles can be written and read.
* `Command.Row` — a line of a stream: a command, or any other text.
* `Command.written` — some lines, each with its ending.
-/

namespace Dashboard.Command

/-- The doubles among the arguments of the command read back. -/
def DoublesReread (c : Command) : Prop :=
  ∀ m ∈ c.arguments, ∀ x ∈ m.2.doubles, (Json.number (.float x)).Rereads

/-- How a line ends. -/
inductive Ending where
  | lineFeed
  | returnLineFeed
  deriving DecidableEq, Repr

/-- A line of a stream. -/
inductive Row where
  | command (c : Command)
  | other (text : String)

/-- What stands in front of the line feed. -/
def Ending.mark : Ending → String
  | lineFeed => ""
  | returnLineFeed => "\r"

namespace Row

/-- The text of a line; a command is written as its JSON. -/
def text : Row → String
  | command c => c.toJson.print
  | other s => s

/-- The command that was written on a line. -/
def command? : Row → Option Command
  | command c => some c
  | other _ => none

/-- Lines that bring nothing but the commands that were written: a command was read from some text,
    and the doubles among its arguments read back; any other line is blank or, without the white
    space at its ends, no command. -/
def IsFaithful : Row → Prop
  | command c => (∃ s, read? s = some c) ∧ c.DoublesReread
  | other s => '\n' ∉ s.toList ∧ (Text.isBlankText s = true ∨ read? (Text.trim s) = none)

end Row

/-- Lines with their endings. -/
def written (rows : List (Row × Ending)) : String :=
  String.join (rows.map fun row => row.1.text ++ row.2.mark ++ "\n")

end Dashboard.Command
