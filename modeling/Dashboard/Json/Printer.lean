import Dashboard.Json.Parser
/-!
# Compact JSON text

No spaces; in strings only the quote, the backslash and the control characters below U+0020 are
escaped, so the text never contains a raw line feed.

* `Json.print` — the text of a value, the members of objects in the order in which they stand.
* `quote` — the text of a string.
* `Json.embedded` — the text of a value for a script inside markup, where `<`, `>` and `&` are
  written as escapes.
* `Json.Rereads` — a value whose text reads as the value.
-/

namespace Dashboard.Json

/-- A digit of base sixteen, in lower case. -/
def hexDigit (n : Nat) : Char :=
  if n < 10 then Char.ofNat ('0'.toNat + n) else Char.ofNat ('a'.toNat + (n - 10))

/-- One character inside the quotes of a string. -/
def quoteChar (c : Char) : List Char :=
  if c = '"' then ['\\', '"']
  else if c = '\\' then ['\\', '\\']
  else if c = '\x08' then ['\\', 'b']
  else if c = '\t' then ['\\', 't']
  else if c = '\n' then ['\\', 'n']
  else if c = '\x0c' then ['\\', 'f']
  else if c = '\r' then ['\\', 'r']
  else if c.toNat < 0x20 then
    ['\\', 'u', '0', '0', hexDigit (c.toNat / 16), hexDigit (c.toNat % 16)]
  else [c]

/-- The text of a string, with its quotes. -/
def quoteChars (cs : List Char) : List Char :=
  '"' :: (cs.flatMap quoteChar ++ ['"'])

/-- The text of a string, with its quotes. -/
def quote (s : String) : String :=
  String.ofList (quoteChars s.toList)

@[simp] theorem toList_quote (s : String) : (quote s).toList = quoteChars s.toList := by
  simp [quote]

mutual

/-- The text of a value. -/
def print : Json → String
  | null => "null"
  | bool true => "true"
  | bool false => "false"
  | number n => n.text
  | string s => quote s
  | array items => "[" ++ printItems items ++ "]"
  | object ms => "\x7b" ++ printMembers ms ++ "\x7d"

/-- Values with commas between them. -/
def printItems : List Json → String
  | [] => ""
  | [x] => print x
  | x :: y :: rest => print x ++ "," ++ printItems (y :: rest)

/-- Members with commas between them. -/
def printMembers : List (String × Json) → String
  | [] => ""
  | [(name, x)] => quote name ++ ":" ++ print x
  | (name, x) :: m :: rest => quote name ++ ":" ++ print x ++ "," ++ printMembers (m :: rest)

end

/-- The text of the value reads as the value. Doubles are not read exactly, so it does not read so
    for each of them. -/
def Rereads (x : Json) : Prop := read? (print x) = some x

/-- A character of JSON text as it may stand in a script inside markup. -/
def embedChar (c : Char) : List Char :=
  if c = '<' then ['\\', 'u', '0', '0', '3', 'c']
  else if c = '>' then ['\\', 'u', '0', '0', '3', 'e']
  else if c = '&' then ['\\', 'u', '0', '0', '2', '6']
  else [c]

/-- The text of a value for a script inside markup. The characters that are escaped stand in
    strings only, so the text still denotes the value. -/
def embedded (v : Json) : String :=
  String.ofList ((print v).toList.flatMap embedChar)

end Dashboard.Json
