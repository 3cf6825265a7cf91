import Dashboard.Binary64.Basic
import Mathlib.Algebra.Group.Nat.Defs
/-!
# Natural numbers among the doubles

* `Binary64.grain` — how far the doubles of the size of a natural number lie apart.
* `Binary64.nearest` — the one nearest to it.
-/

namespace Dashboard.Binary64

/-- Of the natural numbers with as many bits as `n` the multiples of this power of two are doubles.
    Up to `2 ^ 53` it is one. -/
def grain (n : Nat) : Nat := 2 ^ (n.log2 - 52)

/-- The double nearest to a natural number, ties to the even significand. -/
def nearest (n : Nat) : Nat := Magnitude.roundDiv n (grain n) * grain n

end Dashboard.Binary64
