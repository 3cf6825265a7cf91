import Dashboard.Slop.Snapshot
import Dashboard.Text.Basic
import Dashboard.Text.LowerCase
/-!
# Which findings are shown

The user may search for a text and ask for one severity; a finding is shown if it passes both.
-/

namespace Dashboard.Slop

/-- What the user asked for. -/
structure Filter where
  /-- A text to be searched for; not blank. -/
  query : Option String := none
  /-- The only severity that is shown, in lower case. -/
  severity : Option String := none
  deriving DecidableEq, Repr

/-- The word that stands for all severities. -/
def anySeverity : String := "all"

/-- Whether a text occurs in the file, the rule or the message of a finding, in any case. -/
def Finding.mentions (f : Finding) (query : String) : Bool :=
  [f.file, f.rule, f.message].any fun s => Text.containsText (Text.lower s) (Text.lower query)

namespace Filter

/-- The filter with another text to be searched for; none if nothing but white space is given. -/
def withQuery (f : Filter) (asked : Option String) : Filter :=
  { f with query := (asked.map Text.trim).filter (· != "") }

/-- The filter with another severity; none if all are asked for. -/
def withSeverity (f : Filter) (asked : Option String) : Filter :=
  { f with severity := (asked.map Text.lowerAscii).filter (· != anySeverity) }

def passesSeverity (f : Filter) (x : Finding) : Bool :=
  f.severity.all fun s => Text.eqIgnoringCase x.severity s

def passesQuery (f : Filter) (x : Finding) : Bool :=
  f.query.all x.mentions

/-- The findings that are shown, in their order. -/
def visible (f : Filter) (xs : List Finding) : List Finding :=
  xs.filter fun x => f.passesSeverity x && f.passesQuery x

end Filter

end Dashboard.Slop
