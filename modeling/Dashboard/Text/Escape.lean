/-!
# Text inside markup

Text from a daemon or from the user is written into markup with the five characters that markup
gives a meaning replaced by entities.

* `Entity` — the five entities, each with its character and its spelling.
* `escape` — writes every such character as its entity and every other character as itself.
* `unescape` — reads the entities back.
-/

namespace Dashboard.Text

/-- The entities that `escape` writes. -/
inductive Entity where
  | amp | lt | gt | quot | apos
  deriving DecidableEq, Repr

namespace Entity

/-- The character an entity stands for. -/
def char : Entity → Char
  | amp => '&'
  | lt => '<'
  | gt => '>'
  | quot => '"'
  | apos => '\''

/-- The spelling of an entity after its ampersand. -/
def tail : Entity → List Char
  | amp => ['a', 'm', 'p', ';']
  | lt => ['l', 't', ';']
  | gt => ['g', 't', ';']
  | quot => ['q', 'u', 'o', 't', ';']
  | apos => ['#', '3', '9', ';']

/-- The entity for a character that markup gives a meaning. -/
def ofChar? : Char → Option Entity
  | '&' => some amp
  | '<' => some lt
  | '>' => some gt
  | '"' => some quot
  | '\'' => some apos
  | _ => none

end Entity

/-- One character as it is written in markup. -/
def escapeChar (c : Char) : List Char :=
  match Entity.ofChar? c with
  | some e => '&' :: e.tail
  | none => [c]

/-- `escape` on characters. -/
def escapeChars (cs : List Char) : List Char :=
  cs.flatMap escapeChar

/-- Text made safe for element content and for attribute values in double quotes. -/
def escape (s : String) : String :=
  String.ofList (escapeChars s.toList)

/-- Reads the entities of `escape` back; an ampersand that starts none of them stands for itself. -/
def unescapeChars : List Char → List Char
  | '&' :: 'a' :: 'm' :: 'p' :: ';' :: r => '&' :: unescapeChars r
  | '&' :: 'l' :: 't' :: ';' :: r => '<' :: unescapeChars r
  | '&' :: 'g' :: 't' :: ';' :: r => '>' :: unescapeChars r
  | '&' :: 'q' :: 'u' :: 'o' :: 't' :: ';' :: r => '"' :: unescapeChars r
  | '&' :: '#' :: '3' :: '9' :: ';' :: r => '\'' :: unescapeChars r
  | c :: r => c :: unescapeChars r
  | [] => []

/-- The text that `escape` was given. -/
def unescape (s : String) : String :=
  String.ofList (unescapeChars s.toList)

@[simp] theorem toList_escape (s : String) : (escape s).toList = escapeChars s.toList := by
  simp [escape]

end Dashboard.Text
