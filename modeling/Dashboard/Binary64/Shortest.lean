import Dashboard.Binary64.Basic
/-!
# The shortest decimal of a double

* `Magnitude.shortest` — the fewest decimal digits that read back as the magnitude, and of two such
  decimals the nearer one, or the even one if they are equally near.
* `Layout`, `Binary64.text` — how digits and exponent are laid out: positional between `1e-5` and
  `1e15`, otherwise with an exponent that always has a sign.
-/

namespace Dashboard

/-- A positive decimal number `digits · 10 ^ exponent`. -/
structure Decimal where
  digits : Nat
  exponent : Int
  deriving DecidableEq, Repr

/-- The decimal digits of a number. -/
def decimalDigits (n : Nat) : List Char := Nat.toDigits 10 n

namespace Magnitude

/-- The number of decimal digits before the decimal point, zero or negative for a magnitude below
    one tenth or less. -/
def decimalPoint (x : Magnitude) : Int :=
  (decimalDigits (x.units * Nat.pow 10 400 / Binary64.denominator)).length - 400

/-- The magnitude in units of `10 ^ exponent`, as a quotient. -/
def inUnitsOf (x : Magnitude) (exponent : Int) : Nat × Nat :=
  if 0 ≤ exponent then (x.units, Binary64.denominator * Nat.pow 10 exponent.toNat)
  else (x.units * Nat.pow 10 (-exponent).toNat, Binary64.denominator)

/-- A decimal that reads back as the magnitude. -/
def readsBack (x : Magnitude) (d : Decimal) : Bool :=
  ofDecimal? d.digits d.exponent == some x

/-- Whether a quotient is rounded down to a whole number: it is nearer to the one below, or half way
    and the one below is even. -/
def roundsDown (num den : Nat) : Bool :=
  2 * (num % den) < den || (2 * (num % den) == den && num / den % 2 == 0)

/-- The decimals on both sides of a quotient of units of `10 ^ exponent`, the nearer one first. -/
def around (quotient : Nat × Nat) (exponent : Int) : List Decimal :=
  let below : Decimal := ⟨quotient.1 / quotient.2, exponent⟩
  let above : Decimal := ⟨quotient.1 / quotient.2 + 1, exponent⟩
  if roundsDown quotient.1 quotient.2 then [below, above] else [above, below]

/-- The decimal of at most `places` digits that is nearest to the magnitude, if it or its neighbour
    on the other side reads back. -/
def withPlaces? (x : Magnitude) (places : Nat) : Option Decimal :=
  let exponent := x.decimalPoint - places
  (around (x.inUnitsOf exponent) exponent).find? x.readsBack

/-- All digits of the magnitude: every double is a decimal with 1074 places at most. -/
def exact (x : Magnitude) : Decimal :=
  ⟨x.units * Nat.pow 5 Binary64.denominatorBits, -(Binary64.denominatorBits : Int)⟩

/-- The shortest decimal that reads back as the magnitude. Seventeen digits always suffice. -/
def shortest (x : Magnitude) : Decimal :=
  ((List.range 17).findSome? fun i => x.withPlaces? (i + 1)).getD x.exact

end Magnitude

/-- Zeros at the end of a list of digits belong to the exponent. -/
def Decimal.trimmedDigits (d : Decimal) : List Char :=
  ((decimalDigits d.digits).reverse.dropWhile (· == '0')).reverse

/-- The place of the first digit: the exponent of the number in scientific notation. -/
def Decimal.leadingExponent (d : Decimal) : Int :=
  (decimalDigits d.digits).length + d.exponent - 1

/-- Where positional notation starts and ends. -/
structure Layout where
  leastPositional : Int
  greatestPositional : Int

/-- Doubles are written positionally from `1e-5` up to below `1e16`. -/
def Binary64.layout : Layout := ⟨-5, 15⟩

namespace Layout

/-- An exponent with its sign, which a positive one has too. -/
def exponentText (e : Int) : String :=
  (if e < 0 then "-" else "+") ++ toString e.natAbs

/-- Digits in positional notation, the first of them at the place `e`; at least one digit stands on
    either side of the point. -/
def positional (ds : List Char) (e : Int) : String :=
  if e < 0 then
    "0." ++ String.ofList (List.replicate ((-e).toNat - 1) '0' ++ ds)
  else
    let whole := e.toNat + 1
    let before := ds.take whole ++ List.replicate (whole - ds.length) '0'
    let after := ds.drop whole
    String.ofList before ++ "." ++ (if after.isEmpty then "0" else String.ofList after)

/-- Digits in scientific notation; a point stands only before further digits. -/
def scientific (ds : List Char) (e : Int) : String :=
  String.ofList (ds.take 1) ++
    (if ds.length ≤ 1 then "" else "." ++ String.ofList (ds.drop 1)) ++ "e" ++ exponentText e

def text (l : Layout) (d : Decimal) : String :=
  let ds := d.trimmedDigits
  let e := d.leadingExponent
  if l.leastPositional ≤ e ∧ e ≤ l.greatestPositional then positional ds e else scientific ds e

end Layout

/-- The text of a double. -/
def Binary64.text (x : Binary64) : String :=
  (if x.negative then "-" else "") ++
    (if x.magnitude.significand = 0 then "0.0" else Binary64.layout.text x.magnitude.shortest)

end Dashboard
