/-!
# Notices

What the program notes about its own work, for a log. Notices never reach the frames.
-/

namespace Dashboard

/-- How much a notice matters. -/
inductive Notice.Level where
  | info
  | warning
  | error
  deriving DecidableEq, Repr

/-- A notice. -/
structure Notice where
  level : Notice.Level
  text : String
  deriving DecidableEq, Repr

namespace Notice

def Level.name : Level → String
  | info => "INFO"
  | warning => "WARN"
  | error => "ERROR"

def info (text : String) : Notice := ⟨.info, text⟩

def warning (text : String) : Notice := ⟨.warning, text⟩

def error (text : String) : Notice := ⟨.error, text⟩

end Notice

end Dashboard
