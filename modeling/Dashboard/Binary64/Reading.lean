import Dashboard.Binary64.Basic
import Dashboard.Count
/-!
# Numbers spelled out in text

* `numberOf` — the number of a list of decimal digits.
* `Reading`, `readDouble?` — a double as a person may spell it: an optional sign, digits with a
  point anywhere among or beside them, an optional exponent; or `inf`, `infinity` and `nan`. What is
  too large for a finite double is infinite.
* `readInt?` — an integer of 64 bits with an optional sign.
-/

namespace Dashboard

/-- The number of a list of decimal digits. -/
def numberOf (ds : List Char) : Nat :=
  ds.foldl (fun acc c => acc * 10 + (c.toNat - '0'.toNat)) 0

/-- What a text that spells a double stands for. -/
inductive Reading where
  | finite (x : Binary64)
  | infinite (negative : Bool)
  | notANumber
  deriving DecidableEq, Repr

namespace Reading

/-- The double nearest to a decimal, or infinity. -/
def ofDecimal (negative : Bool) (digits : Nat) (exponent : Int) : Reading :=
  match Magnitude.ofDecimal? digits exponent with
  | some m => finite ⟨negative, m⟩
  | none => infinite negative

/-- The sign before a number. -/
def sign : List Char → Bool × List Char
  | '-' :: cs => (true, cs)
  | '+' :: cs => (false, cs)
  | cs => (false, cs)

/-- A nonempty list of digits and nothing else. -/
def allDigits? (cs : List Char) : Option Nat :=
  if !cs.isEmpty && cs.all Char.isDigit then some (numberOf cs) else none

/-- The exponent at the end of a number, 0 if there is none. -/
def exponent? : List Char → Option Int
  | [] => some 0
  | c :: cs =>
    if c = 'e' ∨ c = 'E' then do
      let (negative, ds) := sign cs
      let n ← allDigits? ds
      return if negative then -(n : Int) else n
    else none

/-- A number without its sign: digits, a point and more digits, of which one kind may be missing. -/
def unsigned? (cs : List Char) : Option (Nat × Int) := do
  let whole := cs.takeWhile Char.isDigit
  let (fraction, rest) :=
    match cs.dropWhile Char.isDigit with
    | '.' :: r => (r.takeWhile Char.isDigit, r.dropWhile Char.isDigit)
    | r => ([], r)
  guard !(whole.isEmpty && fraction.isEmpty)
  let exponent ← exponent? rest
  return (numberOf (whole ++ fraction), exponent - fraction.length)

/-- The spelled-out values, in any case. -/
def named? (negative : Bool) (cs : List Char) : Option Reading :=
  let word := String.ofList (cs.map Char.toLower)
  if word == "inf" || word == "infinity" then some (infinite negative)
  else if word == "nan" then some notANumber
  else none

/-- The double that a text spells. -/
def ofChars? (cs : List Char) : Option Reading :=
  let (negative, rest) := sign cs
  match named? negative rest with
  | some r => some r
  | none => (unsigned? rest).map fun (digits, exponent) => ofDecimal negative digits exponent

/-- The whole part of a reading that is zero or above, as a count. -/
def count? : Reading → Nat → Option Nat
  | finite x, most => if x.isNonnegative then some (min x.floor most) else none
  | infinite negative, most => if negative then none else some most
  | notANumber, _ => none

end Reading

/-- The double that a text spells. -/
def readDouble? (s : String) : Option Reading := Reading.ofChars? s.toList

/-- The integer that a text spells, if 64 bits hold it. -/
def readInt? (s : String) : Option Int := do
  let (negative, ds) := Reading.sign s.toList
  let n ← Reading.allDigits? ds
  let value : Int := if negative then -(n : Int) else n
  guard (-Count.signedBound ≤ value ∧ value < Count.signedBound)
  return value

/-- The count that a text spells, with an optional plus sign. -/
def readCount? (s : String) : Option Nat := do
  let ds :=
    match s.toList with
    | '+' :: cs => cs
    | cs => cs
  let n ← Reading.allDigits? ds
  guard (n ≤ Count.max)
  return n

end Dashboard
