import Dashboard.Context.Snapshot
import Dashboard.Slop.Snapshot
import Dashboard.Stats.Snapshot
import Mathlib.Data.Prod.Lex
import Mathlib.Data.String.Basic
import Mathlib.Order.WithBot
/-!
# The order of lists

Lists that daemons send are shown sorted. Each element has a place, and elements with the same place
stay in the order in which they were sent.

* `IsStableSort` — a list sorted by place.
* `Stats.Store.place`, `Slop.Finding.place`, `Context.Item.place` — the places of modules, findings
  and parts of the context.
* `Slop.severityPlace` — how severe a word is, `Slop.countPlace` — the place of a count.
* `Stats.Snapshot.sent`, `Slop.Snapshot.sent`, `Context.Snapshot.sent` — the elements as they were
  sent.
-/

namespace Dashboard

open OrderDual

/-- The elements of a list, sorted by place. Those with the same place stay in their order. -/
structure IsStableSort {α κ : Type} [LinearOrder κ] (place : α → κ) (xs ys : List α) : Prop where
  perm : ys.Perm xs
  ascending : ys.Pairwise fun a b => place a ≤ place b
  stable : ∀ k, ys.filter (place · = k) = xs.filter (place · = k)

/-- Modules by size, the largest first, then by name. -/
def Stats.Store.place (s : Store) : ℕᵒᵈ ×ₗ String := toLex (toDual s.bytes, s.name)

namespace Slop

/-- The severities, in any case, the most severe first, and behind them every other word. -/
def severityPlace (s : String) : ℕ :=
  match Text.lowerAscii s with
  | "error" => 0
  | "warning" => 1
  | "info" => 2
  | "hint" => 3
  | _ => 4

/-- Severities with counts, the most severe first, then by name. -/
def countPlace (c : String × ℕ) : ℕ ×ₗ String := toLex (severityPlace c.1, c.1)

/-- Findings by severity, then by file, then by line, those without a line first. -/
def Finding.place (f : Finding) : ℕ ×ₗ String ×ₗ WithBot ℕ :=
  toLex (severityPlace f.severity, toLex (f.file, f.line.elim ⊥ WithBot.some))

end Slop

/-- Parts of the context with the pinned ones first, then by size, the largest first, then by
    label. -/
def Context.Item.place (i : Item) : Boolᵒᵈ ×ₗ ℕᵒᵈ ×ₗ String :=
  toLex (toDual i.pinned, toLex (toDual i.tokens, i.label))

/-- The modules that a value lists, but for those without a name, in the order in which they were
    sent. -/
def Stats.Snapshot.sent (x : Json) : List Store :=
  (x.listing modulesFields).filterMap Store.ofJson?

/-- The findings that a value lists, in the order in which they were sent. -/
def Slop.Snapshot.sent (x : Json) : List Finding := (x.listing findingsFields).map Finding.ofJson

/-- The parts of the context that a value lists, but for those without an id, in the order in which
    they were sent. -/
def Context.Snapshot.sent (x : Json) : List Item :=
  (x.listing itemsFields).filterMap Item.ofJson?

end Dashboard
