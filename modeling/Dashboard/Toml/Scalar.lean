import Dashboard.Count
import Dashboard.Json.Parser
import Dashboard.Time.Calendar
import Dashboard.Toml.Table
/-!
# Values of one piece

Readers for the strings, numbers and dates of a TOML document. Each takes what it reads from the
beginning of the text and gives the rest.

* `Scalar.string?` — a string in one of four ways of quoting.
* `Scalar.number?` — an integer of 64 bits, or a double.
* `Scalar.moment?` — a date, a time of day, or both.
-/

namespace Dashboard.Toml.Scalar

/-- Characters that may stand on a line: no controls besides the tab. -/
def isPlain (c : Char) : Bool := c == '\t' || (0x20 ≤ c.toNat && c.toNat != 0x7F)

def isSpace (c : Char) : Bool := c == ' ' || c == '\t'

def skipSpace (cs : List Char) : List Char := cs.dropWhile isSpace

/-- What follows a line break, if one stands here. -/
def lineBreak? : List Char → Option (List Char)
  | '\n' :: rest => some rest
  | '\r' :: '\n' :: rest => some rest
  | _ => none

/-! ### Strings -/

/-- The character with a number that digits of base sixteen give. -/
def scalar? (ds : List Char) : Option Char := do
  let n ← ds.foldlM (fun n c => (Json.Grammar.hexValue? c).map (n * 16 + ·)) 0
  guard (n < 0xD800 ∨ (0xE000 ≤ n ∧ n < 0x110000))
  return Char.ofNat n

/-- The character of an escape of two characters. -/
def escaped? : Char → Option Char
  | '"' => some '"'
  | '\\' => some '\\'
  | 'b' => some '\x08'
  | 'f' => some '\x0c'
  | 'n' => some '\n'
  | 'r' => some '\r'
  | 't' => some '\t'
  | _ => none

/-- A character before what was read after it. -/
def cons (c : Char) : List Char × List Char → List Char × List Char
  | (cs, rest) => (c :: cs, rest)

/-- A string with escapes, after its opening quote. -/
def basic? : List Char → Option (List Char × List Char)
  | [] => none
  | '"' :: rest => some ([], rest)
  | '\\' :: 'u' :: a :: b :: c :: d :: rest => do
    return cons (← scalar? [a, b, c, d]) (← basic? rest)
  | '\\' :: 'U' :: a :: b :: c :: d :: e :: f :: g :: h :: rest => do
    return cons (← scalar? [a, b, c, d, e, f, g, h]) (← basic? rest)
  | '\\' :: c :: rest => do return cons (← escaped? c) (← basic? rest)
  | c :: rest => if isPlain c && c != '\\' then (basic? rest).map (cons c) else none

/-- A string with escapes of several lines, after its opening quotes. A backslash at the end of a
    line removes the break and all space up to the next character; `removing` tells that one did. -/
def multiBasic? (removing : Bool) : List Char → Option (List Char × List Char)
  | [] => none
  | '"' :: '"' :: '"' :: '"' :: '"' :: rest => some (['"', '"'], rest)
  | '"' :: '"' :: '"' :: '"' :: rest => some (['"'], rest)
  | '"' :: '"' :: '"' :: rest => some ([], rest)
  | '\r' :: '\n' :: rest =>
    if removing then multiBasic? true rest else (multiBasic? false rest).map (cons '\n')
  | '\n' :: rest =>
    if removing then multiBasic? true rest else (multiBasic? false rest).map (cons '\n')
  | '\\' :: 'u' :: a :: b :: c :: d :: rest => do
    return cons (← scalar? [a, b, c, d]) (← multiBasic? false rest)
  | '\\' :: 'U' :: a :: b :: c :: d :: e :: f :: g :: h :: rest => do
    return cons (← scalar? [a, b, c, d, e, f, g, h]) (← multiBasic? false rest)
  | '\\' :: c :: rest =>
    if (lineBreak? (skipSpace (c :: rest))).isSome then multiBasic? true (c :: rest)
    else do return cons (← escaped? c) (← multiBasic? false rest)
  | c :: rest =>
    if removing && isSpace c then multiBasic? true rest
    else if isPlain c && c != '\\' then (multiBasic? false rest).map (cons c)
    else none

/-- A string without escapes, after its opening apostrophe. -/
def literal? : List Char → Option (List Char × List Char)
  | [] => none
  | '\'' :: rest => some ([], rest)
  | c :: rest => if isPlain c then (literal? rest).map (cons c) else none

/-- A string without escapes of several lines, after its opening apostrophes. -/
def multiLiteral? : List Char → Option (List Char × List Char)
  | [] => none
  | '\'' :: '\'' :: '\'' :: '\'' :: '\'' :: rest => some (['\'', '\''], rest)
  | '\'' :: '\'' :: '\'' :: '\'' :: rest => some (['\''], rest)
  | '\'' :: '\'' :: '\'' :: rest => some ([], rest)
  | '\r' :: '\n' :: rest => (multiLiteral? rest).map (cons '\n')
  | '\n' :: rest => (multiLiteral? rest).map (cons '\n')
  | c :: rest => if isPlain c then (multiLiteral? rest).map (cons c) else none

/-- The text without a line break at its beginning. -/
def skipBreak (cs : List Char) : List Char := (lineBreak? cs).getD cs

/-- A string on one line, with or without escapes. -/
def line? : List Char → Option (List Char × List Char)
  | '"' :: rest => basic? rest
  | '\'' :: rest => literal? rest
  | _ => none

/-- A string. -/
def string? : List Char → Option (List Char × List Char)
  | '"' :: '"' :: '"' :: rest => multiBasic? false (skipBreak rest)
  | '\'' :: '\'' :: '\'' :: rest => multiLiteral? (skipBreak rest)
  | cs => line? cs

/-! ### Numbers -/

/-- Digits after the first one; an underscore may stand between two digits. -/
def moreDigits? (isDigit : Char → Bool) : List Char → Option (List Char × List Char)
  | [] => some ([], [])
  | ['_'] => none
  | '_' :: c :: cs => if isDigit c then (moreDigits? isDigit cs).map (cons c) else none
  | c :: cs => if isDigit c then (moreDigits? isDigit cs).map (cons c) else some ([], c :: cs)

/-- Digits, of which there is one at least. -/
def digits? (isDigit : Char → Bool) : List Char → Option (List Char × List Char)
  | [] => none
  | c :: cs => if isDigit c then (moreDigits? isDigit cs).map (cons c) else none

/-- Digits without a needless zero. -/
def whole? : List Char → Option (List Char × List Char)
  | '0' :: rest => some (['0'], rest)
  | cs => digits? Char.isDigit cs

/-- The digits of a fraction, none if no point stands here. -/
def fraction? : List Char → Option (Option (List Char) × List Char)
  | '.' :: cs => (digits? Char.isDigit cs).map fun (ds, rest) => (some ds, rest)
  | cs => some (none, cs)

/-- The exponent of a number, none if no exponent stands here. -/
def exponent? : List Char → Option (Option Int × List Char)
  | [] => some (none, [])
  | c :: cs =>
    if c = 'e' ∨ c = 'E' then do
      let (negative, cs) := Reading.sign cs
      let (ds, rest) ← digits? Char.isDigit cs
      return (some (if negative then -(numberOf ds : Int) else numberOf ds), rest)
    else some (none, c :: cs)

/-- An integer that 64 bits hold. -/
def integer? (n : Int) : Option Value :=
  if -Count.signedBound ≤ n ∧ n < Count.signedBound then some (.integer n) else none

/-- A number of base two, eight or sixteen. -/
def based? (base : Nat) (cs : List Char) : Option (Value × List Char) := do
  let value? (c : Char) := (Json.Grammar.hexValue? c).filter (· < base)
  let (ds, rest) ← digits? (fun c => (value? c).isSome) cs
  let n ← ds.foldlM (fun n c => (value? c).map (n * base + ·)) 0
  return (← integer? n, rest)

/-- A decimal number after its sign. What is above every double is refused. -/
def decimal? (negative : Bool) (cs : List Char) : Option (Value × List Char) := do
  let (ds, cs) ← whole? cs
  let (fraction, cs) ← fraction? cs
  let (exponent, cs) ← exponent? cs
  match fraction, exponent with
  | none, none =>
    let n : Int := numberOf ds
    return (← integer? (if negative then -n else n), cs)
  | _, _ =>
    let fraction := fraction.getD []
    let x := Reading.ofDecimal negative (numberOf (ds ++ fraction))
      (exponent.getD 0 - fraction.length)
    guard (x ≠ .infinite false)
    return (.float x, cs)

/-- A number. -/
def number? : List Char → Option (Value × List Char)
  | '0' :: 'x' :: cs => based? 16 cs
  | '0' :: 'o' :: cs => based? 8 cs
  | '0' :: 'b' :: cs => based? 2 cs
  | cs =>
    let (negative, cs) := Reading.sign cs
    match cs with
    | 'i' :: 'n' :: 'f' :: rest => some (.float (.infinite negative), rest)
    | 'n' :: 'a' :: 'n' :: rest => some (.float .notANumber, rest)
    | cs => decimal? negative cs

/-! ### Dates and times -/

/-- A number of `count` digits that lies between two bounds. -/
def figure? (count low high : Nat) (cs : List Char) : Option (Nat × List Char) := do
  let n ← Reading.allDigits? (cs.take count)
  guard (count ≤ cs.length ∧ low ≤ n ∧ n ≤ high)
  return (n, cs.drop count)

/-- What follows a character. -/
def after? (c : Char) : List Char → Option (List Char)
  | [] => none
  | d :: rest => if d = c then some rest else none

/-- What follows a date. -/
def date? (cs : List Char) : Option (List Char) := do
  let (year, cs) ← figure? 4 0 9999 cs
  let (month, cs) ← figure? 2 1 12 (← after? '-' cs)
  let (_, cs) ← figure? 2 1 (Time.daysInMonth year month) (← after? '-' cs)
  return cs

/-- What follows a time of day. -/
def time? (cs : List Char) : Option (List Char) := do
  let (_, cs) ← figure? 2 0 23 cs
  let (_, cs) ← figure? 2 0 59 (← after? ':' cs)
  let (_, cs) ← figure? 2 0 60 (← after? ':' cs)
  match cs with
  | '.' :: d :: rest => return if d.isDigit then rest.dropWhile Char.isDigit else cs
  | _ => return cs

/-- What follows the distance from universal time. -/
def offset? : List Char → Option (List Char)
  | [] => none
  | c :: cs =>
    if c = 'Z' ∨ c = 'z' then some cs
    else if c = '+' ∨ c = '-' then do
      let (_, cs) ← figure? 2 0 23 cs
      let (_, cs) ← figure? 2 0 59 (← after? ':' cs)
      return cs
    else none

/-- What follows a date with a time of day, of a date alone or of a time of day alone. -/
def momentRest? (cs : List Char) : Option (List Char) :=
  match date? cs with
  | none => time? cs
  | some rest =>
    match rest with
    | c :: cs =>
      if c = 'T' ∨ c = 't' ∨ c = ' ' then
        match time? cs with
        | some rest => some ((offset? rest).getD rest)
        | none => some rest
      else some rest
    | [] => some rest

/-- A date, a time of day or both. -/
def moment? (cs : List Char) : Option (Value × List Char) :=
  (momentRest? cs).map fun rest =>
    (.moment (String.ofList (cs.take (cs.length - rest.length))), rest)

end Dashboard.Toml.Scalar
