import Dashboard.Url.Domain
/-!
# Addresses of services

An address names a scheme and, after two slashes, a host, before which a user and after which a port
may stand. Some schemes are special: their hosts are names or numeric addresses, any number of
slashes may stand before the host, and a backslash counts as a slash.

* `Url.parse` — the address that a text is, or why it is none.
* `Url.Flaw.message` — the one wording of each reason.
-/

namespace Dashboard

/-- An address, as far as it tells where to connect. -/
structure Url where
  scheme : String
  /-- The host as it is meant, brackets included. -/
  host : Option String
  deriving DecidableEq, Repr

namespace Url

/-- Why a text is no address. -/
inductive Flaw where
  /-- It does not begin with a scheme. -/
  | relative
  | emptyHost
  | port
  | ipv4
  | ipv6
  /-- The host of a special scheme is no name. -/
  | name
  /-- The host of another scheme has a character that no host has. -/
  | hostCharacter
  deriving DecidableEq, Repr

/-- The wording of a reason. -/
def Flaw.message : Flaw → String
  | relative => "relative URL without a base"
  | emptyHost => "empty host"
  | port => "invalid port number"
  | ipv4 => "invalid IPv4 address"
  | ipv6 => "invalid IPv6 address"
  | name => "invalid international domain name"
  | hostCharacter => "invalid domain character"

/-- How the text after a scheme is read. -/
inductive Kind where
  | file | special | other
  deriving DecidableEq, Repr

def Kind.ofScheme (scheme : String) : Kind :=
  if scheme = "file" then file
  else if ["http", "https", "ws", "wss", "ftp"].contains scheme then special
  else other

/-! ### Characters -/

/-- What counts of a text: spaces and controls at its ends and breaks anywhere do not. -/
def significant (text : List Char) : List Char :=
  let isMargin (c : Char) : Bool := c.toNat ≤ 0x20
  (((text.dropWhile isMargin).reverse.dropWhile isMargin).reverse).filter
    fun c => c != '\t' && c != '\n' && c != '\r'

def isSchemeChar (c : Char) : Bool := c.isAlphanum || c == '+' || c == '-' || c == '.'

def isSlash (c : Char) : Bool := c == '/' || c == '\\'

/-- Whether a character ends the part with the host. -/
def endsAuthority (kind : Kind) (c : Char) : Bool :=
  c == '/' || c == '?' || c == '#' || (kind != .other && c == '\\')

/-! ### Parts -/

/-- The scheme at the beginning, in lower case, and what stands after its colon. -/
def scheme? (cs : List Char) : Option (String × List Char) :=
  if cs.head?.any Char.isAlpha then
    match cs.dropWhile isSchemeChar with
    | ':' :: rest => some (String.ofList ((cs.takeWhile isSchemeChar).map Char.toLower), rest)
    | _ => none
  else none

/-- The host at the beginning, up to a colon that is not within brackets, and the rest. -/
def splitHost (bracketed : Bool) : List Char → List Char × List Char
  | [] => ([], [])
  | c :: cs =>
    if c = ':' ∧ !bracketed then ([], c :: cs)
    else
      let (host, rest) := splitHost (c == '[' || (bracketed && c != ']')) cs
      (c :: host, rest)

/-- The address of eight groups between the brackets of a host that begins with one. -/
def bracketedHost (host : List Char) : Except Flaw String :=
  if host.getLast? = some ']' ∧ isIpv6 (host.tail.dropLast) then .ok (String.ofList host)
  else .error .ipv6

/-- A host that is a name or a numeric address. -/
def plainHost (host : List Char) : Except Flaw String :=
  if host.head? = some '[' then bracketedHost host
  else
    match domain? host with
    | none => .error .name
    | some [] => .error .emptyHost
    | some name =>
      if endsInNumber name && !isIpv4 name then .error .ipv4 else .ok (String.ofList name)

/-- A host of a scheme that is not special. -/
def opaqueHost (host : List Char) : Except Flaw String :=
  if host.head? = some '[' then bracketedHost host
  else if host.any fun c =>
      ['\x00', ' ', '#', '/', ':', '<', '>', '?', '@', '[', '\\', ']', '^', '|'].contains c then
    .error .hostCharacter
  else .ok (String.ofList host)

/-- Checks the port, which ends before a backslash even where that is no slash. -/
def checkPort (cs : List Char) : Except Flaw Unit :=
  let digits := cs.takeWhile (· != '\\')
  if digits.isEmpty then .ok ()
  else
    match Reading.allDigits? digits with
    | some n => if n ≤ 65535 then .ok () else .error .port
    | none => .error .port

/-- What stands before the last at sign, if there is one, and what stands after it. -/
def splitUser (cs : List Char) : Option (List Char) × List Char :=
  if cs.contains '@' then
    let after := (cs.reverse.takeWhile (· != '@')).reverse
    (some (cs.take (cs.length - after.length - 1)), after)
  else (none, cs)

/-- The host of the part after two slashes. -/
def authority (kind : Kind) (cs : List Char) : Except Flaw (Option String) := do
  let part := cs.takeWhile (!endsAuthority kind ·)
  let (user, place) := splitUser part
  if user = some [] ∧ place = [] ∧ part.length < cs.length then throw .emptyHost
  let (host, rest) := splitHost false place
  if kind = .special ∧ host = [] then throw .emptyHost
  let name ← if kind = .special then plainHost host else opaqueHost host
  match rest with
  | _ :: port =>
    if host = [] then throw .emptyHost
    checkPort port
  | [] => pure ()
  if host = [] then
    if user.any fun u => u != [] && u != [':'] then throw .emptyHost
    return none
  return some name

/-- The host of a file, which may have none. -/
def fileHost (cs : List Char) : Except Flaw (Option String) :=
  match cs.takeWhile (!endsAuthority .file ·) with
  | [] => .ok none
  | [drive, mark] =>
    if drive.isAlpha ∧ (mark = ':' ∨ mark = '|') then .ok none else named [drive, mark]
  | host => named host
where
  named (host : List Char) : Except Flaw (Option String) :=
    (plainHost host).map fun name => if name = "localhost" then none else some name

/-- The address that a text is. -/
def parse (text : String) : Except Flaw Url := do
  match scheme? (significant text.toList) with
  | none => throw .relative
  | some (scheme, rest) =>
    let host ←
      match Kind.ofScheme scheme, rest with
      | .special, rest => authority .special (rest.dropWhile isSlash)
      | .other, '/' :: '/' :: rest => authority .other rest
      | .file, a :: b :: rest => if isSlash a && isSlash b then fileHost rest else pure none
      | _, _ => pure none
    return { scheme, host }

end Url

end Dashboard
