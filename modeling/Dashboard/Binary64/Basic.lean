/-!
# Doubles as exact numbers

A finite double is `± significand · 2 ^ scale / 2 ^ 1074` with a significand below `2 ^ 53`. An
operation is exact arithmetic on natural numbers followed by one rounding, unless it says otherwise.

* `Binary64` — the finite doubles, each with exactly one representation.
* `Magnitude.ofRatio?` — the double nearest to a quotient, ties to the even significand, none if
  the quotient is too large for a finite double.
* `Magnitude.mul?`, `Magnitude.div?`, `Magnitude.shift?` — products, quotients and powers of ten,
  each rounded.
* `Binary64.floor` — the whole part of the magnitude.
-/

namespace Dashboard

/-- Bits of a significand, the hidden one included. -/
def Binary64.precision : Nat := 53

/-- Significands are below this bound. -/
def Binary64.significandBound : Nat := Nat.pow 2 Binary64.precision

/-- The power of two that the smallest double divides one into. -/
def Binary64.denominatorBits : Nat := 1074

/-- The numbers of units that make one. -/
def Binary64.denominator : Nat := Nat.pow 2 Binary64.denominatorBits

/-- The largest scale of a finite double. -/
def Binary64.maxScale : Nat := 2045

/-- The exponent of the largest power of ten that is not beyond the finite doubles. -/
def Binary64.maxTens : Nat := 308

/-- The size of a finite double: `significand · 2 ^ scale / 2 ^ 1074`. Below `2 ^ 52` the
    significand stands for a subnormal number, which has scale 0. -/
structure Magnitude where
  significand : Nat
  scale : Nat
  deriving DecidableEq, Repr

/-- A finite double. -/
structure Binary64 where
  negative : Bool
  magnitude : Magnitude
  deriving DecidableEq, Repr

namespace Magnitude

def zero : Magnitude := ⟨0, 0⟩

/-- The numerator of a magnitude over `2 ^ 1074`. -/
def units (x : Magnitude) : Nat := x.significand * Nat.pow 2 x.scale

/-- `num / den` rounded to the nearest natural number, ties to even. -/
def roundDiv (num den : Nat) : Nat :=
  let q := num / den
  let r := num % den
  if 2 * r < den then q
  else if 2 * r > den then q + 1
  else if q % 2 = 0 then q else q + 1

/-- The scale at which a number of units has at most 53 significant bits. -/
def scaleFor (units : Nat) : Nat :=
  if units < Binary64.significandBound then 0 else units.log2 - (Binary64.precision - 1)

/-- A significand that rounding carried to `2 ^ 53` is halved; a scale beyond the largest is
    refused. -/
def settle? (significand scale : Nat) : Option Magnitude :=
  let x : Magnitude :=
    if significand = Binary64.significandBound then ⟨Nat.pow 2 (Binary64.precision - 1), scale + 1⟩
    else ⟨significand, scale⟩
  if x.scale ≤ Binary64.maxScale then some x else none

/-- The magnitude nearest to `num / den`, ties to the even significand. -/
def ofRatio? (num den : Nat) : Option Magnitude :=
  let units := num * Binary64.denominator
  let scale := scaleFor (units / den)
  settle? (roundDiv units (den * Nat.pow 2 scale)) scale

/-- The magnitude nearest to `digits · 10 ^ exponent`. Exponents so far out that the answer does
    not depend on the digits are not multiplied out. -/
def ofDecimal? (digits : Nat) (exponent : Int) : Option Magnitude :=
  if digits = 0 then some zero
  else if exponent > 400 then none
  else if exponent < -(400 + (Nat.log2 digits : Int)) then some zero
  else if 0 ≤ exponent then ofRatio? (digits * Nat.pow 10 exponent.toNat) 1
  else ofRatio? digits (Nat.pow 10 (-exponent).toNat)

/-- The magnitude nearest to a natural number. -/
def ofNat? (n : Nat) : Option Magnitude := ofRatio? n 1

/-- The largest natural number that is not above the magnitude. -/
def floor (x : Magnitude) : Nat := x.units / Binary64.denominator

/-- The natural number nearest to the magnitude, a half rounded up. -/
def round (x : Magnitude) : Nat :=
  (2 * x.units + Binary64.denominator) / (2 * Binary64.denominator)

/-- The product of a magnitude and a natural number, rounded. -/
def mulNat? (x : Magnitude) (n : Nat) : Option Magnitude :=
  ofRatio? (x.units * n) Binary64.denominator

/-- The product of two magnitudes, rounded. -/
def mul? (x y : Magnitude) : Option Magnitude :=
  ofRatio? (x.units * y.units) (Binary64.denominator * Binary64.denominator)

/-- The quotient of two magnitudes, rounded. -/
def div? (x y : Magnitude) : Option Magnitude := ofRatio? x.units y.units

/-- A magnitude divided so many times by the largest power of ten, unless nothing is left of it. -/
def lower? : Nat → Magnitude → Option Magnitude
  | 0, x => some x
  | steps + 1, x =>
    if x.significand = 0 then some x
    else
      (ofNat? (Nat.pow 10 Binary64.maxTens)).bind fun tens => (div? x tens).bind (lower? steps)

/-- A magnitude multiplied or divided by a power of ten. The power is a double, so it may be rounded
    before the result is: the answer is near `x · 10 ^ exponent` but need not be nearest. -/
def shift? (x : Magnitude) (exponent : Int) : Option Magnitude :=
  if x.significand = 0 then some x
  else if (Binary64.maxTens : Int) < exponent then none
  else if 0 ≤ exponent then (ofNat? (Nat.pow 10 exponent.toNat)).bind (mul? x)
  else
    -- Where no double holds the power, the magnitude is divided in several steps.
    let places := (-exponent).toNat
    let steps := (places - 1) / Binary64.maxTens
    (lower? steps x).bind fun y =>
      (ofNat? (Nat.pow 10 (places - steps * Binary64.maxTens))).bind (div? y)

end Magnitude

namespace Binary64

/-- The whole part of the magnitude. -/
def floor (x : Binary64) : Nat := x.magnitude.floor

/-- Whether a double is zero or above; the negative zero is. -/
def isNonnegative (x : Binary64) : Bool :=
  !x.negative || x.magnitude.significand == 0

/-- The whole part with its sign. -/
def truncate (x : Binary64) : Int :=
  if x.negative then -(x.floor : Int) else x.floor

end Binary64

end Dashboard
