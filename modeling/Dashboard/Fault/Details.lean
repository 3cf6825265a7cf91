import Dashboard.Fault
import Dashboard.Notice
import Dashboard.Text.Quoted
/-!
# Failures in notices

* `Fault.details` — the cause of a failure and all that is known about it.
* `Fault.noticeDuring` — the notice that something failed while something was done.
-/

namespace Dashboard.Fault

/-- A cause with one thing that is known about it. -/
def detail (cause name value : String) : String :=
  cause ++ " \x7b " ++ name ++ ": " ++ value ++ " \x7d"

/-- The cause of a failure and all that is known about it. -/
def details : Fault → String
  | io reason => "Io(" ++ detail "Custom" "kind" ("Other, error: " ++ Text.quoted reason) ++ ")"
  | json reason => "Json(" ++ reason ++ ")"
  | transport reason => detail "Transport" "message" (Text.quoted reason)
  | notConfigured daemon => detail "NotConfigured" "daemon" (Text.quoted daemon)
  | remote reason => detail "Remote" "message" (Text.quoted reason)
  | protocol reason => detail "Protocol" "message" (Text.quoted reason)
  | timeout method ms =>
    detail "Timeout" "method" (Text.quoted method ++ ", timeout_ms: " ++ toString ms)
  | config reason => detail "Config" "message" (Text.quoted reason)
  | configNotFound path => detail "ConfigNotFound" "path" (Text.quotedPath path)
  | configInvalid reason => detail "ConfigInvalid" "message" (Text.quoted reason)
  | channelSend reason => detail "ChannelSend" "message" (Text.quoted reason)
  | channelClosed => "ChannelClosed"

/-- The notice that something failed while something was done. -/
def noticeDuring (f : Fault) (activity : String) : Notice := .error (activity ++ ": " ++ f.details)

end Dashboard.Fault
