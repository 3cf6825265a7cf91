import Dashboard.Reply
/-!
# What a load brought

A load asks a daemon several things at once. Its report holds the reply to every call, in the order
of the calls. A load counts as successful if any of its calls was.
-/

namespace Dashboard.Tab

/-- A call and its reply. -/
structure Outcome where
  method : String
  reply : Reply

/-- The outcomes of a load. -/
structure Report where
  outcomes : List Outcome

namespace Outcome

/-- Whether this is the successful outcome of a method. -/
def answers (method : String) (o : Outcome) : Bool :=
  o.method == method && o.reply.success

/-- The wording of a failure. -/
def failure (o : Outcome) : String := o.method ++ ": " ++ o.reply.reason

end Outcome

namespace Report

def anySuccess (r : Report) : Bool := r.outcomes.any (·.reply.success)

def succeeded (r : Report) (method : String) : Bool := r.outcomes.any (·.answers method)

/-- What a successful call of the method brought; null if it brought nothing. -/
def data? (r : Report) (method : String) : Option Json :=
  (r.outcomes.find? (·.answers method)).map fun o => o.reply.data.getD .null

/-- What a successful call of the method brought, if it is not null. -/
def contribution? (r : Report) (method : String) : Option Json :=
  (r.data? method).filter fun x => !x.isNull

/-- The wording of the failures of all calls. -/
def failures (r : Report) : List String :=
  (r.outcomes.filter fun o => !o.reply.success).map Outcome.failure

/-- The failures in one text. -/
def summary (r : Report) : String :=
  if r.failures.isEmpty then "no data requested" else "; ".intercalate r.failures

end Report

end Dashboard.Tab
