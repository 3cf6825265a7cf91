import Dashboard.Binary64.Reading
import Dashboard.Json.Parser
/-!
# Numeric addresses

* `Url.isIpv4` — up to four numbers with points between them, of which each but the last is a byte
  and the last fills the bytes that are left; numbers may be octal or of base sixteen.
* `Url.endsInNumber` — whether a name has to be such an address.
* `Url.isIpv6` — eight groups of base sixteen with colons between them, of which the last two may
  be an address of four decimal bytes, and of which a row of zeros may be left out once.
-/

namespace Dashboard.Url

/-- The value of a digit of base eight, ten or sixteen. -/
def digit? (base : Nat) (c : Char) : Option Nat := (Json.Grammar.hexValue? c).filter (· < base)

/-- The number of a list of digits. -/
def number? (base : Nat) (cs : List Char) : Option Nat :=
  cs.foldlM (fun n c => (digit? base c).map (n * base + ·)) 0

/-- A part of an address of four bytes: a number whose base is told from its beginning. -/
def ipv4Part? : List Char → Option Nat
  | [] => none
  | '0' :: 'x' :: ds => number? 16 ds
  | '0' :: 'X' :: ds => number? 16 ds
  | '0' :: d :: ds => number? 8 (d :: ds)
  | ds => number? 10 ds

/-- The parts of a name; a point at its end opens no part. -/
def parts (name : List Char) : List (List Char) :=
  let all := name.splitOn '.'
  if 1 < all.length ∧ all.getLast? = some [] then all.dropLast else all

/-- Whether a name has to be an address: its last part is a number. -/
def endsInNumber (name : List Char) : Bool :=
  match (parts name).getLast? with
  | some last => (!last.isEmpty && last.all Char.isDigit) || (ipv4Part? last).isSome
  | none => false

/-- Whether a name is an address of four bytes. -/
def isIpv4 (name : List Char) : Bool :=
  let ps := parts name
  match ps.mapM ipv4Part? with
  | none => false
  | some numbers =>
    numbers.length ≤ 4 && numbers.dropLast.all (· < 256) &&
      numbers.getLast?.all (· < Nat.pow 256 (5 - numbers.length))

/-! ### Addresses of eight groups -/

/-- A decimal byte without needless zeros. -/
def isByte (cs : List Char) : Bool :=
  match Reading.allDigits? cs with
  | some n => n < 256 && (cs.length = 1 || cs.head? != some '0')
  | none => false

/-- Four decimal bytes with points between them. -/
def isFourBytes (cs : List Char) : Bool :=
  let ps := cs.splitOn '.'
  ps.length == 4 && ps.all isByte

/-- The digits of a group, at most four. -/
def group (cs : List Char) : List Char := (cs.take 4).takeWhile fun c => (digit? 16 c).isSome

/-- The rest of an address after some groups; `gap` tells whether a row of zeros was left out. -/
def ipv6Rest (groups : Nat) (gap : Bool) (cs : List Char) : Bool :=
  match cs with
  | [] => gap || groups == 8
  | c :: rest =>
    if groups == 8 then false
    else if c = ':' then !gap && ipv6Rest (groups + 1) true rest
    else
      match h : (c :: rest).drop (group (c :: rest)).length with
      | [] => gap || groups + 1 == 8
      | '.' :: _ =>
        !(group (c :: rest)).isEmpty && groups ≤ 6 && isFourBytes (c :: rest) &&
          (gap || groups + 2 == 8)
      | ':' :: after => !after.isEmpty && ipv6Rest (groups + 1) gap after
      | _ => false
termination_by cs.length
decreasing_by
  · simp
  · have := congrArg List.length h
    simp at this ⊢
    omega

/-- Whether the text between brackets is an address. -/
def isIpv6 (cs : List Char) : Bool :=
  match cs with
  | ':' :: ':' :: rest => ipv6Rest 1 true rest
  | ':' :: _ => false
  | [_] => false
  | [] => false
  | cs => ipv6Rest 0 false cs

end Dashboard.Url
