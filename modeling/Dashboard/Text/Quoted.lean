import Dashboard.Text.UnseenTable
/-!
# Quoted text in notices

Notices quote what came from outside: the quote and the backslash are escaped, and so is every
character that shows nothing or joins with its neighbour, by its code point.
-/

namespace Dashboard.Text

/-- Whether a character is shown by its code point. -/
def isUnseen (c : Char) : Bool :=
  c.toNat < 0x20 || (0x7F ≤ c.toNat && inRanges unseen c.toNat)

/-- A code point in base sixteen, in braces. -/
def codePoint (c : Char) : String :=
  "\\u\x7b" ++ String.ofList (Nat.toDigits 16 c.toNat) ++ "\x7d"

/-- A character between quotes. -/
def quotedChar (c : Char) : String :=
  if c = '"' then "\\\""
  else if c = '\\' then "\\\\"
  else if c = '\n' then "\\n"
  else if c = '\r' then "\\r"
  else if c = '\t' then "\\t"
  else if c.toNat = 0 then "\\0"
  else if isUnseen c then codePoint c
  else c.toString

/-- A text between quotes. -/
def quoted (s : String) : String :=
  "\"" ++ String.join (s.toList.map quotedChar) ++ "\""

/-- The place of a file between quotes. An apostrophe in it is escaped too. -/
def quotedPath (path : String) : String :=
  let shown (c : Char) : String := if c = '\'' then "\\'" else quotedChar c
  "\"" ++ String.join (path.toList.map shown) ++ "\""

/-- A text that may be missing. -/
def quotedOption : Option String → String
  | some s => "Some(" ++ quoted s ++ ")"
  | none => "None"

end Dashboard.Text
