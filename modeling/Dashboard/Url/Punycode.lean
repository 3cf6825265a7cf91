import Dashboard.Json.Parser
/-!
# Names of hosts in ASCII

A label that is not ASCII may be written in ASCII: the ASCII characters first, and after a hyphen a
list of numbers that tell which characters are put in, and where. A number is written with digits
of base thirty-six, least significant first, and ends with the first digit below a threshold.

* `Punycode.decode?` — the label that such a text stands for.
-/

namespace Dashboard.Url.Punycode

def base : Nat := 36

/-- The value of a digit. -/
def digit? (c : Char) : Option Nat :=
  if 'a' ≤ c ∧ c ≤ 'z' then some (c.toNat - 'a'.toNat)
  else if 'A' ≤ c ∧ c ≤ 'Z' then some (c.toNat - 'A'.toNat)
  else if c.isDigit then some (c.toNat - '0'.toNat + 26)
  else none

/-- The threshold of the digit at a place, which counts in steps of the base. -/
def threshold (place bias : Nat) : Nat :=
  if place ≤ bias + 1 then 1 else if bias + 26 ≤ place then 26 else place - bias

/-- Divides by the largest threshold gap until little is left. -/
def settle : Nat → Nat → Nat → Nat
  | 0, _, k => k
  | steps + 1, delta, k =>
    if 35 * 26 / 2 < delta then settle steps (delta / 35) (k + base)
    else k + 36 * delta / (delta + 38)

/-- The bias after a number. -/
def adapt (delta count : Nat) (first : Bool) : Nat :=
  let delta := if first then delta / 700 else delta / 2
  settle delta (delta + delta / count) 0

/-- A number, to which what came before is added. -/
def number? (bias : Nat) : Nat → Nat → Nat → List Char → Option (Nat × List Char)
  | _, _, _, [] => none
  | place, weight, sum, c :: rest => do
    let d ← digit? c
    let sum := sum + d * weight
    let next := weight * (base - threshold place bias)
    if Count.smallMax < sum then none
    else if d < threshold place bias then some (sum, rest)
    else if Count.smallMax < next then none
    else number? bias (place + base) next sum rest

/-- The character with a code point. -/
def char? (n : Nat) : Option Char := if h : n.isValidChar then some (Char.ofNatAux n h) else none

/-- Puts characters in until no digits are left. The first argument bounds the steps. -/
def insert? : Nat → Nat → Nat → Nat → List Char → List Char → Option (List Char)
  | _, _, _, _, out, [] => some out
  | 0, _, _, _, _, _ => none
  | steps + 1, code, place, bias, out, digits => do
    let (i, rest) ← number? bias base 1 place digits
    let count := out.length + 1
    let c ← char? (code + i / count)
    let at' := i % count
    insert? steps (code + i / count) (at' + 1) (adapt (i - place) count (place = 0 && code = 128))
      (out.take at' ++ c :: out.drop at') rest

/-- The label that a text stands for. A hyphen comes after ASCII characters, of which there is one
    at least. -/
def decode? (cs : List Char) : Option (List Char) :=
  let kept := (cs.reverse.dropWhile (· != '-')).drop 1 |>.reverse
  let digits := (cs.reverse.takeWhile (· != '-')).reverse
  if kept.isEmpty ∧ cs.contains '-' then none
  else if kept.all (·.toNat < 128) then insert? digits.length 128 0 72 kept digits
  else none

end Dashboard.Url.Punycode
