import Dashboard.Markup.Token
import Dashboard.Panel.Course
/-!
# Which tab is shown

* `Session.play` — a session after several moves.
* `Session.Move.choice?` — the tab that a move asks to be made active.
* `Panel.HasChosen` — one of the tabs is active if there are any.
* `Markup.Token.buttonTab?`, `Markup.Token.activeButton?`, `Markup.Token.shownPanel?` — the buttons
  and the panels of tabs in a document, and those of the tab that it shows.
-/

namespace Dashboard

/-- The session after several moves, whether they may happen or not. -/
def Session.play (s : Session) (moves : List Move) : Session := moves.foldl step s

/-- The tab that a command asks to be made active. A tab that is among its arguments goes before the
    one that it is addressed to. -/
def Panel.choice? (c : Command) : Option String :=
  if c.name = selectWord then (c.word? "tab").or c.tab else none

/-- The tab that a move asks to be made active. -/
def Session.Move.choice? : Move → Option String
  | receive c => Panel.choice? c
  | _ => none

/-- No tab is active if there is none, and else one of them is. -/
structure Panel.HasChosen (p : Panel) : Prop where
  none_iff : p.active = none ↔ p.tabs = []
  mem : ∀ id, p.active = some id → id ∈ p.tabs.map Tab.id

namespace Markup.Token

/-- The name of the tab whose button starts here, if one does. The button names it for the command
    that makes it active. -/
def buttonTab? : Token → Option String
  | opening "button" attributes => (attributes.lookup "data-tab").join
  | _ => none

/-- The name of the tab whose button starts here, if it is marked as active. -/
def activeButton? (t : Token) : Option String :=
  match t with
  | opening _ attributes => if hasClass "active" attributes then t.buttonTab? else none
  | _ => none

/-- The name of the tab whose panel starts here, if it is not hidden. -/
def shownPanel? (t : Token) : Option (Option String) :=
  match t with
  | opening _ attributes => if (attributes.lookup "hidden").isSome then none else t.panelTab?
  | _ => none

end Markup.Token

end Dashboard
