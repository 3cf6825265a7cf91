import Dashboard.Json.Basic
import Dashboard.Binary64.Reading
/-!
# Reading JSON text

* `Json.readRaw?` — the value of a text, members of objects in the order in which they are written
  and repeated members kept.
* `Json.read?` — the value of a text in normal form.

A text is refused if anything but white space follows the value, if a number is too large for a
double, if an escape denotes half of a surrogate pair alone, and if arrays and objects are nested
more than `depthLimit` deep. Integers that 64 bits do not hold and the negative zero are doubles.

A double is reckoned from the digits that 64 bits hold and a power of ten, in double arithmetic
(`Grammar.double?`). It is the nearest one where both are exact; elsewhere it may be a neighbour, and
the largest doubles may be refused.
-/

namespace Dashboard.Json.Grammar

/-- How deep arrays and objects may be nested. -/
def depthLimit : Nat := 127

def isSpace (c : Char) : Bool :=
  c == ' ' || c == '\t' || c == '\n' || c == '\r'

def skipSpace (cs : List Char) : List Char := cs.dropWhile isSpace

/-! ### Strings -/

/-- The value of a digit of base sixteen. -/
def hexValue? (c : Char) : Option Nat :=
  if c.isDigit then some (c.toNat - '0'.toNat)
  else if 'a' ≤ c ∧ c ≤ 'f' then some (c.toNat - 'a'.toNat + 10)
  else if 'A' ≤ c ∧ c ≤ 'F' then some (c.toNat - 'A'.toNat + 10)
  else none

/-- What stands between the quotes of a string: a character, or a unit of UTF-16 given by an
    escape. -/
inductive Piece where
  | char (c : Char)
  | unit (n : Nat)
  deriving DecidableEq, Repr

/-- The character of an escape of two characters. -/
def escaped? : Char → Option Char
  | '"' => some '"'
  | '\\' => some '\\'
  | '/' => some '/'
  | 'b' => some '\x08'
  | 'f' => some '\x0c'
  | 'n' => some '\n'
  | 'r' => some '\r'
  | 't' => some '\t'
  | _ => none

/-- The unit of UTF-16 that four digits of base sixteen denote. -/
def unit? (a b c d : Char) : Option Nat := do
  return (((← hexValue? a) * 16 + (← hexValue? b)) * 16 + (← hexValue? c)) * 16 + (← hexValue? d)

/-- The pieces up to the closing quote, and what follows it. -/
def pieces? : List Char → Option (List Piece × List Char)
  | [] => none
  | '"' :: rest => some ([], rest)
  | '\\' :: 'u' :: a :: b :: c :: d :: rest =>
    match unit? a b c d, pieces? rest with
    | some n, some (ps, rest) => some (.unit n :: ps, rest)
    | _, _ => none
  | '\\' :: c :: rest =>
    match escaped? c, pieces? rest with
    | some c, some (ps, rest) => some (.char c :: ps, rest)
    | _, _ => none
  | c :: rest =>
    if c.toNat < 0x20 ∨ c = '\\' then none
    else
      match pieces? rest with
      | some (ps, rest) => some (.char c :: ps, rest)
      | none => none

/-- Joins surrogate pairs; a surrogate that stands alone is refused. -/
def joinPieces? : List Piece → Option (List Char)
  | [] => some []
  | .char c :: rest => (joinPieces? rest).map (c :: ·)
  | [.unit n] => if 0xD800 ≤ n ∧ n < 0xE000 then none else some [Char.ofNat n]
  | .unit n :: next :: rest =>
    if 0xD800 ≤ n ∧ n < 0xDC00 then
      match next with
      | .unit m =>
        if 0xDC00 ≤ m ∧ m < 0xE000 then
          (joinPieces? rest).map
            (Char.ofNat (0x10000 + (n - 0xD800) * 0x400 + (m - 0xDC00)) :: ·)
        else none
      | .char _ => none
    else if 0xDC00 ≤ n ∧ n < 0xE000 then none
    else (joinPieces? (next :: rest)).map (Char.ofNat n :: ·)

/-- The string after an opening quote. -/
def string? (cs : List Char) : Option (String × List Char) := do
  let (ps, rest) ← pieces? cs
  return (String.ofList (← joinPieces? ps), rest)

/-! ### Numbers -/

/-- A list of digits that is not empty and has no needless zero in front. -/
def whole? (cs : List Char) : Option (List Char × List Char) :=
  match cs.takeWhile Char.isDigit with
  | [] => none
  | '0' :: _ :: _ => none
  | ds => some (ds, cs.dropWhile Char.isDigit)

/-- The digits of a fraction, none if no point stands here. -/
def fraction? : List Char → Option (Option (List Char) × List Char)
  | '.' :: cs =>
    let ds := cs.takeWhile Char.isDigit
    if ds.isEmpty then none else some (some ds, cs.dropWhile Char.isDigit)
  | cs => some (none, cs)

/-- The exponent of a number, none if no exponent stands here. -/
def exponent? : List Char → Option (Option Int × List Char)
  | c :: cs =>
    if c = 'e' ∨ c = 'E' then
      let (negative, cs) := Reading.sign cs
      let ds := cs.takeWhile Char.isDigit
      if ds.isEmpty then none
      else
        let n : Int := numberOf ds
        some (some (if negative then -n else n), cs.dropWhile Char.isDigit)
    else some (none, c :: cs)
  | [] => some (none, [])

/-- Digits go behind a number as long as 64 bits hold it: the number, and the digits for which there
    is no room. -/
def absorb (n : Nat) : List Char → Nat × List Char
  | [] => (n, [])
  | c :: cs =>
    let m := n * 10 + (c.toNat - '0'.toNat)
    if Count.max < m then (n, c :: cs) else absorb m cs

/-- The number of an integer literal that 64 bits hold without its sign. -/
def integer? (negative : Bool) (n : Nat) : Option Number :=
  if negative then
    if n = 0 ∨ Count.signedBound < n then (Magnitude.ofNat? n).map fun m => .float ⟨true, m⟩
    else some (.int (-(n : Int)))
  else some (.int n)

/-- The double of a literal: its digits are rounded to a double, and that is multiplied or divided by
    a power of ten. -/
def double? (negative : Bool) (digits : Nat) (exponent : Int) : Option Number :=
  ((Magnitude.ofNat? digits).bind (Magnitude.shift? · exponent)).map fun m => .float ⟨negative, m⟩

/-- The number of a literal. Digits for which 64 bits have no room are dropped; those of the whole
    part count for the exponent. The digits of the fraction are tried again after them. -/
def literal? (negative : Bool) (whole : List Char) (fraction : Option (List Char))
    (exponent : Option Int) : Option Number :=
  let (n, beyond) := absorb 0 whole
  match beyond, fraction, exponent with
  | [], none, none => integer? negative n
  | _, _, _ =>
    let places := fraction.getD []
    let (digits, dropped) := absorb n places
    double? negative digits (exponent.getD 0 + beyond.length - (places.length - dropped.length))

/-- A number, after its minus sign if it has one. -/
def number? (negative : Bool) (cs : List Char) : Option (Number × List Char) := do
  let (whole, cs) ← whole? cs
  let (fraction, cs) ← fraction? cs
  let (exponent, cs) ← exponent? cs
  return (← literal? negative whole fraction exponent, cs)

/-! ### Values -/

mutual

/-- A value, of which arrays and objects are nested at most `depth` deep. The first argument bounds
    the number of steps. -/
def value? : Nat → Nat → List Char → Option (Json × List Char)
  | 0, _, _ => none
  | steps + 1, depth, cs =>
    match skipSpace cs with
    | 'n' :: 'u' :: 'l' :: 'l' :: rest => some (.null, rest)
    | 't' :: 'r' :: 'u' :: 'e' :: rest => some (.bool true, rest)
    | 'f' :: 'a' :: 'l' :: 's' :: 'e' :: rest => some (.bool false, rest)
    | '"' :: rest => (string? rest).map fun (s, rest) => (.string s, rest)
    | '-' :: rest => (number? true rest).map fun (n, rest) => (.number n, rest)
    | '[' :: rest =>
      match depth with
      | 0 => none
      | depth + 1 =>
        match skipSpace rest with
        | ']' :: rest => some (.array [], rest)
        | rest => (items? steps depth rest).map fun (xs, rest) => (.array xs, rest)
    | '\x7b' :: rest =>
      match depth with
      | 0 => none
      | depth + 1 =>
        match skipSpace rest with
        | '\x7d' :: rest => some (.object [], rest)
        | rest => (members? steps depth rest).map fun (ms, rest) => (.object ms, rest)
    | rest => (number? false rest).map fun (n, rest) => (.number n, rest)

/-- The items of an array that is not empty, up to its closing bracket. -/
def items? : Nat → Nat → List Char → Option (List Json × List Char)
  | 0, _, _ => none
  | steps + 1, depth, cs =>
    match value? steps depth cs with
    | none => none
    | some (x, rest) =>
      match skipSpace rest with
      | ',' :: rest => (items? steps depth rest).map fun (xs, rest) => (x :: xs, rest)
      | ']' :: rest => some ([x], rest)
      | _ => none

/-- The members of an object that is not empty, up to its closing brace. -/
def members? : Nat → Nat → List Char → Option (List (String × Json) × List Char)
  | 0, _, _ => none
  | steps + 1, depth, cs =>
    match member? steps depth cs with
    | none => none
    | some (m, rest) =>
      match skipSpace rest with
      | ',' :: rest => (members? steps depth rest).map fun (ms, rest) => (m :: ms, rest)
      | '\x7d' :: rest => some ([m], rest)
      | _ => none

/-- One member of an object. -/
def member? : Nat → Nat → List Char → Option ((String × Json) × List Char)
  | 0, _, _ => none
  | steps + 1, depth, cs =>
    match skipSpace cs with
    | '"' :: rest =>
      match string? rest with
      | none => none
      | some (name, rest) =>
        match skipSpace rest with
        | ':' :: rest => (value? steps depth rest).map fun (x, rest) => ((name, x), rest)
        | _ => none
    | _ => none

end

/-- More steps than a text of this length can take. -/
def stepsFor (cs : List Char) : Nat := 3 * cs.length + 3

end Dashboard.Json.Grammar

namespace Dashboard.Json

open Grammar

/-- The value of a text, with the members of objects as they are written. -/
def readRaw? (s : String) : Option Json :=
  match value? (stepsFor s.toList) depthLimit s.toList with
  | some (x, rest) => if (skipSpace rest).isEmpty then some x else none
  | none => none

/-- The value of a text. -/
def read? (s : String) : Option Json :=
  (readRaw? s).map normal

end Dashboard.Json
