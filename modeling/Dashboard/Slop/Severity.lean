import Dashboard.Binary64.Grain
import Dashboard.Tab.Ranking
/-!
# Counts of severities

A daemon tells the number of findings of each severity in an object that has a member for each. The
names of the members may come in any case, and their values are read by a rule of their own
(`Statistics.share?`) and not as other counts are (`Payload.count?`).

* `Statistics.shares` — the counts that an object gives, `Statistics.valuesOf` — what it tells of one
  severity.
* `Statistics.Tells` — counts that tell each severity of an object once, read as any other count.
* `Statistics.ReadsOtherwise` — the values for which the two rules differ.
-/

namespace Dashboard.Slop.Statistics

/-- The counts that the members of an object give to the severities for which they are named, in the
    order of the members. -/
def shares (ms : Json.Members) : List (String × ℕ) :=
  ms.filterMap fun m => (share? m.2).map (Text.lowerAscii m.1, ·)

/-- The values of the members that are named for a severity, in any case. -/
def valuesOf (severity : String) (ms : Json.Members) : List Json :=
  (ms.filter fun m => Text.lowerAscii m.1 == severity).map (·.2)

/-- What is to be told of an object: each severity for which it has a count, once, by rank and then by
    name; and with that very count if a single member is named for the severity. -/
structure Tells (ms : Json.Members) (told : List (String × ℕ)) : Prop where
  ascending : told.Pairwise fun c d => countPlace c < countPlace d
  mem_iff : ∀ severity, severity ∈ told.map (·.1) ↔
    ∃ x ∈ valuesOf severity ms, (Payload.count? x).isSome = true
  mem_of_single : ∀ severity x n, valuesOf severity ms = [x] → Payload.count? x = some n →
    (severity, n) ∈ told

/-- The values that are a count and that a severity does not get that count from: doubles, text that
    is more than digits or too large, and digits that no double holds. -/
inductive ReadsOtherwise : Json → Prop
  | double {x : Binary64} (h : x.isNonnegative = true) : ReadsOtherwise (.number (.float x))
  | text {s : String} (h : readCount? s = none)
      (hc : (Payload.count? (.string s)).isSome = true) : ReadsOtherwise (.string s)
  | digits {s : String} {n : ℕ} (h : readCount? s = some n) (hd : ¬ Binary64.grain n ∣ n)
      (hm : n ≠ Count.max) : ReadsOtherwise (.string s)

end Dashboard.Slop.Statistics
