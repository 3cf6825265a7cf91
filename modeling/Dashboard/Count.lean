/-!
# Counts

Counts are natural numbers up to `Count.max`, the largest number that 64 bits hold. Sums that would
pass it stay at it.
-/

namespace Dashboard.Count

/-- The largest count. -/
def max : Nat := 18446744073709551615

/-- The largest number that 32 bits hold. -/
def smallMax : Nat := 4294967295

/-- The integers of 64 bits with a sign are below this bound and not below its opposite. -/
def signedBound : Int := 9223372036854775808

/-- The sum of two counts, or the largest count if that is less. -/
def add (a b : Nat) : Nat := min (a + b) max

/-- The product of two counts, or the largest count if that is less. -/
def mul (a b : Nat) : Nat := min (a * b) max

/-- The sum of counts, or the largest count if that is less. -/
def sum (ns : List Nat) : Nat := ns.foldl add 0

end Dashboard.Count
