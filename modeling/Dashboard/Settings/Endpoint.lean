import Dashboard.Settings.Basic
import Dashboard.Text.Basic
import Dashboard.Url
/-!
# Addresses of daemons

* `Endpoint.Flaw` — why a text cannot be the address of a daemon.
* `Endpoint.validate` — accepts addresses with the scheme `ws` or `wss` and a host.
-/

namespace Dashboard.Endpoint

/-- Why a text cannot be the address of a daemon. -/
inductive Flaw where
  | malformed (endpoint : String) (reason : Url.Flaw)
  | scheme (name : String)
  | hostless (endpoint : String)
  deriving DecidableEq, Repr

/-- The wording of a reason. -/
def Flaw.message : Flaw → String
  | malformed endpoint reason => "invalid URL '" ++ endpoint ++ "': " ++ reason.message
  | scheme name => "unsupported scheme '" ++ name ++ "'"
  | hostless endpoint => "missing host in '" ++ endpoint ++ "'"

/-- The address that a text gives for a daemon. Blanks around it do not count. -/
def validate (endpoint : String) : Except Flaw Url :=
  match Url.parse (Text.trim endpoint) with
  | .error reason => .error (.malformed endpoint reason)
  | .ok url =>
    if url.scheme ≠ "ws" ∧ url.scheme ≠ "wss" then .error (.scheme url.scheme)
    else if url.host = none then .error (.hostless endpoint)
    else .ok url

end Dashboard.Endpoint
