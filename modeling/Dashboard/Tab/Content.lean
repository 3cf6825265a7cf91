import Dashboard.Markup.Fragment
import Dashboard.Tab.Load
/-!
# The view of a tab

Whatever a tab is about, its view is an error with a button to try again, a note that it is
loading, or its data, with a banner above them if they could not be refreshed.
-/

namespace Dashboard.Tab

open Markup

/-- How the view of a tab is made. -/
structure Presentation (σ : Type) where
  /-- The tab's name. -/
  id : String
  /-- The command that tries again. -/
  retry : String
  /-- What is being loaded. -/
  what : String
  /-- The view of a snapshot. -/
  data : σ → List (Node Empty)

/-- The view of a tab. -/
def LoadState.content {σ : Type} (s : LoadState σ) (p : Presentation σ) : Node Empty :=
  tabContent p.id <|
    match s.branch with
    | .error reason => [errorView reason s.attempts.count s.attempts.cap p.retry]
    | .loading => [loadingView p.what]
    | .data x stale => stale.toList.map staleBanner ++ p.data x

end Dashboard.Tab
