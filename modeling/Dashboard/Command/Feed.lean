import Dashboard.Command
import Dashboard.Notice
import Dashboard.Text.Lines
/-!
# The commands in a stream

Commands come one on a line. Blank lines are passed over, malformed ones are noted and passed over,
and a line that is not UTF-8 ends the stream.
-/

namespace Dashboard.Command

/-- The commands in a stream and what is to be noted of it. -/
structure Feed where
  commands : List Command := []
  notices : List Notice := []

namespace Feed

/-- The end of the stream. -/
def endNotice : Notice := .info "Command reader exiting"

/-- The end of a stream with a line that is not UTF-8. -/
def unreadableNotice : Notice :=
  .error "Failed to read stdin: stream did not contain valid UTF-8"

/-- What a line brings. -/
def ofLine (line : String) : Feed :=
  match Line.read line with
  | .blank => {}
  | .malformed =>
    { notices := [.warning "Ignoring malformed command line: JSON parsing error: no command"] }
  | .command c => { commands := [c] }

/-- One feed after the other. -/
def append (a b : Feed) : Feed := ⟨a.commands ++ b.commands, a.notices ++ b.notices⟩

/-- What lines bring. -/
def ofLines : List (List UInt8) → Feed
  | [] => { notices := [endNotice] }
  | line :: rest =>
    match Text.ofUtf8? line with
    | some s => (ofLine s).append (ofLines rest)
    | none => { notices := [unreadableNotice, endNotice] }

/-- What a stream brings. -/
def ofBytes (bytes : List UInt8) : Feed := ofLines (Text.linesOf bytes)

end Feed

end Dashboard.Command
