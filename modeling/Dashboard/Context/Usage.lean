import Dashboard.Context.State
import Dashboard.Markup.Token
/-!
# What is told of the use of the context

* `Context.exactPercent` — how many hundredths of a limit are used, in exact arithmetic.
* `Context.usageWarning` — the badge that warns of it.
* `Context.isUsageBar`, `Context.State.usageBars` — the bars in the view that show it.
-/

namespace Dashboard

/-- Whether an element has a class. -/
def Markup.Element.hasClass {ρ : Type} (e : Element ρ) (name : String) : Bool :=
  Token.hasClass name (e.attributes.map Attribute.reading)

namespace Context

/-- How many hundredths of a limit are used, rounded down, or the largest count if that is less. -/
def exactPercent (used limit : Nat) : Nat := min (100 * used / limit) Count.max

/-- The badge that warns of so many hundredths. -/
def usageWarning (percent : Nat) : Badge := ⟨toString percent ++ "%", .warning⟩

/-- Whether an element shows how much of the context is used. -/
def isUsageBar (e : Markup.Element Empty) : Bool := e.hasClass "usage-bar"

/-- The usage bars in the view of the tab. -/
def State.usageBars (s : State) (now : Time.Instant) : List (Markup.Element Empty) :=
  (s.content now).elements.filter isUsageBar

end Context

end Dashboard
