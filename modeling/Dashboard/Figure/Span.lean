import Dashboard.Figure.Duration
/-!
# Spans of time as they are shown

A duration is shown in one of four forms. A `Span` is a form with its figures, whatever duration
they were rounded from.

* `Span.text` — `850ms`, `4.2s`, `3m 05s` or `1h 02m`.
* `Span.toMillis` — the milliseconds that the figures stand for.
* `Span.IsProper` — no figure reads as a full larger unit.
* `Span.slack` — half of the last place.
* `Span.Shows` — a text is the spelling of a proper span.
* `Span.ofMillis` — the span that a duration is rounded to.
-/

namespace Dashboard.Figure

/-- A form of a duration with its figures, the larger unit first. -/
inductive Span where
  | millis (count : Nat)
  | seconds (count tenth : Nat)
  | minutes (count second : Nat)
  | hours (count minute : Nat)
  deriving DecidableEq, Repr

/-- The last two digits of a number. -/
def digitPair (n : Nat) : String :=
  String.ofList [Nat.digitChar (n / 10 % 10), Nat.digitChar (n % 10)]

namespace Span

/-- The figure of the largest unit. -/
def first : Span → Nat
  | millis n | seconds n _ | minutes n _ | hours n _ => n

/-- What is written behind the first figure. -/
def rest : Span → String
  | millis _ => "ms"
  | seconds _ tenth => "." ++ toString tenth ++ "s"
  | minutes _ second => "m " ++ digitPair second ++ "s"
  | hours _ minute => "h " ++ digitPair minute ++ "m"

/-- How a span is written. -/
def text (s : Span) : String := toString s.first ++ s.rest

theorem text_millis (n : Nat) : (millis n).text = toString n ++ "ms" := rfl

theorem text_seconds (n tenth : Nat) :
    (seconds n tenth).text = toString n ++ "." ++ toString tenth ++ "s" := by
  simp only [text, first, rest, String.append_assoc]

theorem text_minutes (n second : Nat) :
    (minutes n second).text = toString n ++ "m " ++ digitPair second ++ "s" := by
  simp only [text, first, rest, String.append_assoc]

theorem text_hours (n minute : Nat) :
    (hours n minute).text = toString n ++ "h " ++ digitPair minute ++ "m" := by
  simp only [text, first, rest, String.append_assoc]

/-- The milliseconds that a span stands for. -/
def toMillis : Span → Nat
  | millis n => n
  | seconds n tenth => n * 1000 + tenth * 100
  | minutes n second => n * 60000 + second * 1000
  | hours n minute => n * 3600000 + minute * 60000

/-- Half of the last place of a span, in milliseconds. -/
def slack : Span → Nat
  | millis _ => 0
  | seconds .. => 50
  | minutes .. => 500
  | hours .. => 30000

/-- No figure reaches the next larger unit, and the first one says something. -/
def IsProper : Span → Prop
  | millis n => n < 1000
  | seconds n tenth => 1 ≤ n ∧ n < 60 ∧ tenth < 10
  | minutes n second => 1 ≤ n ∧ n < 60 ∧ second < 60
  | hours n minute => 1 ≤ n ∧ minute < 60

instance : DecidablePred IsProper
  | millis n => inferInstanceAs (Decidable (n < 1000))
  | seconds n tenth => inferInstanceAs (Decidable (1 ≤ n ∧ n < 60 ∧ tenth < 10))
  | minutes n second => inferInstanceAs (Decidable (1 ≤ n ∧ n < 60 ∧ second < 60))
  | hours n minute => inferInstanceAs (Decidable (1 ≤ n ∧ minute < 60))

/-- A text that is the spelling of a proper span. -/
def Shows (s : Span) (shown : String) : Prop := s.IsProper ∧ s.text = shown

/-- The span that a duration is rounded to. The unit is chosen after rounding. -/
def ofMillis (ms : Nat) : Span :=
  if ms < 1000 then millis ms
  else if tenths ms 1000 < 600 then seconds (tenths ms 1000 / 10) (tenths ms 1000 % 10)
  else
    let rounded := Count.add ms 500 / 1000
    if rounded < 3600 then minutes (rounded / 60) (rounded % 60)
    else hours (Count.add ms 30000 / 60000 / 60) (Count.add ms 30000 / 60000 % 60)

end Span

end Dashboard.Figure
