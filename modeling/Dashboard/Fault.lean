import Dashboard.Json.Printer
/-!
# What can go wrong

* `Fault` — the causes of failure, each with what is known about it.
* `Fault.message` — the one wording of each cause.
* `Fault.isRecoverable` — the failures that a tab shows and the user may retry.
-/

namespace Dashboard

/-- A cause of failure. -/
inductive Fault where
  /-- A file could not be read or written. -/
  | io (reason : String)
  /-- A text is not the JSON that was expected. -/
  | json (reason : String)
  /-- A daemon cannot be reached. -/
  | transport (reason : String)
  /-- The settings give a daemon no address. -/
  | notConfigured (daemon : String)
  /-- A daemon answered with an error. -/
  | remote (reason : String)
  /-- A request cannot be put into words. -/
  | protocol (reason : String)
  /-- A daemon did not answer in time. -/
  | timeout (method : String) (milliseconds : Nat)
  /-- The settings ask for something impossible. -/
  | config (reason : String)
  /-- The file of settings that was asked for does not exist. -/
  | configNotFound (path : String)
  /-- The text of the settings cannot be read. -/
  | configInvalid (reason : String)
  /-- Nobody takes the frames. -/
  | channelSend (reason : String)
  /-- A connection ended before the answer came. -/
  | channelClosed
  deriving DecidableEq, Repr

namespace Fault

/-- The wording of a failure. -/
def message : Fault → String
  | io reason => "IO error: " ++ reason
  | json reason => "JSON parsing error: " ++ reason
  | transport reason => "Transport error: " ++ reason
  | notConfigured daemon => "Daemon '" ++ daemon ++ "' is not configured"
  | remote reason => "Daemon returned an error: " ++ reason
  | protocol reason => "Daemon protocol error: " ++ reason
  | timeout method ms => "Call to " ++ method ++ " timed out after " ++ toString ms ++ "ms"
  | config reason => "Configuration error: " ++ reason
  | configNotFound path => "Configuration file not found: " ++ path
  | configInvalid reason => "Invalid configuration: " ++ reason
  | channelSend reason => "Channel send error: " ++ reason
  | channelClosed => "Channel closed unexpectedly"

/-- Failures of a call. They end up on a tab and never end the program. -/
def isRecoverable : Fault → Bool
  | transport _ | notConfigured _ | remote _ | protocol _ | timeout _ _ | channelSend _
  | channelClosed => true
  | io _ | json _ | config _ | configNotFound _ | configInvalid _ => false

end Fault

end Dashboard
