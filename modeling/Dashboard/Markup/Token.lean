import Dashboard.Markup.Element
import Dashboard.Text.Escape
/-!
# Reading markup

The text of markup is read character by character, without knowledge of the tree that it was
written from: text, start tags whose attributes have values in double quotes or none, end tags, and
style sheets and scripts up to the next `<`, which must be their own end tag. Anything else is
refused.

* `Markup.Token` — what is read.
* `Markup.Mode`, `Markup.Mode.step` — where in a text the reader is, and what one more character
  does.
* `Markup.tokens?` — the tokens of a text, `Node.tokens` — those of a tree.
* `Markup.nests`, `Markup.Token.Within`, `Markup.WellFormed` — tags nest, and all names are known.
-/

namespace Dashboard.Markup

/-- What is read from markup. -/
inductive Token where
  | doctype
  /-- A character of text; an entity is the character it stands for. -/
  | char (c : Char)
  | opening (name : String) (attributes : List (String × Option String))
  | closing (name : String)
  /-- The body of a style sheet or a script. -/
  | raw (body : String)
  deriving DecidableEq, Repr

/-- A start tag as far as it was read. -/
structure Start where
  name : String
  attributes : List (String × Option String) := []

/-- Where in a text the reader is. -/
inductive Mode where
  | text
  /-- In an entity in text. -/
  | entity (name : List Char)
  /-- After `<`. -/
  | tag
  /-- After `<!`. -/
  | declaration (seen : List Char)
  | opening (name : List Char)
  /-- After a space in a start tag. -/
  | gap (tag : Start)
  /-- In the name of an attribute. -/
  | label (tag : Start) (name : List Char)
  /-- After the `=` of an attribute. -/
  | equals (tag : Start) (name : String)
  | value (tag : Start) (name : String) (seen : List Char)
  /-- In an entity in the value of an attribute. -/
  | valueEntity (tag : Start) (name : String) (seen entity : List Char)
  /-- After the closing quote of an attribute. -/
  | quoted (tag : Start)
  | closing (name : List Char)
  | raw (name : String) (body : List Char)
  /-- After `<` in a style sheet or a script. -/
  | rawEnd (name : String) (body seen : List Char)

/-- The characters of names. -/
def isNameChar (c : Char) : Bool := c.isAlphanum || c == '-'

/-- The elements whose bodies are no markup. -/
def rawNames : List String := ["style", "script"]

/-- The character of an entity, by its name. -/
def entityChar? (name : List Char) : Option Char :=
  ([.amp, .lt, .gt, .quot, .apos].find? fun e => Text.Entity.tail e == name ++ [';']).map
    Text.Entity.char

namespace Start

/-- The start tag with one more attribute. -/
def add (s : Start) (name : String) (value : Option String) : Start :=
  { s with attributes := s.attributes ++ [(name, value)] }

/-- The start tag ends. -/
def finish (s : Start) : List Token × Mode :=
  ([.opening s.name s.attributes], if rawNames.contains s.name then .raw s.name [] else .text)

/-- What comes after a name or an attribute: an attribute or the end. -/
def next (s : Start) (c : Char) : Option (List Token × Mode) :=
  if c = ' ' then some ([], .gap s)
  else if c = '>' then some s.finish
  else none

end Start

/-- What one more character does. -/
def Mode.step : Mode → Char → Option (List Token × Mode)
  | text, c =>
    if c = '<' then some ([], tag)
    else if c = '&' then some ([], entity [])
    else some ([.char c], text)
  | entity name, c =>
    if c = ';' then (entityChar? name).map fun d => ([.char d], text)
    else some ([], entity (name ++ [c]))
  | tag, c =>
    if c = '/' then some ([], closing [])
    else if c = '!' then some ([], declaration [])
    else if c.isAlpha then some ([], opening [c])
    else none
  | declaration seen, c =>
    if c = '>' then
      if String.ofList seen = "DOCTYPE html" then some ([.doctype], text) else none
    else some ([], declaration (seen ++ [c]))
  | opening name, c =>
    if isNameChar c then some ([], opening (name ++ [c]))
    else Start.next ⟨String.ofList name, []⟩ c
  | gap s, c => if isNameChar c then some ([], label s [c]) else none
  | label s name, c =>
    if isNameChar c then some ([], label s (name ++ [c]))
    else if c = '=' then some ([], equals s (String.ofList name))
    else (s.add (String.ofList name) none).next c
  | equals s name, c => if c = '"' then some ([], value s name []) else none
  | value s name seen, c =>
    if c = '"' then some ([], quoted (s.add name (some (String.ofList seen))))
    else if c = '&' then some ([], valueEntity s name seen [])
    else some ([], value s name (seen ++ [c]))
  | valueEntity s name seen e, c =>
    if c = ';' then (entityChar? e).map fun d => ([], value s name (seen ++ [d]))
    else some ([], valueEntity s name seen (e ++ [c]))
  | quoted s, c => s.next c
  | closing name, c =>
    if isNameChar c then some ([], closing (name ++ [c]))
    else if c = '>' then some ([.closing (String.ofList name)], text)
    else none
  | raw name body, c =>
    if c = '<' then some ([], rawEnd name body [])
    else some ([], raw name (body ++ [c]))
  | rawEnd name body seen, c =>
    if c = '>' then
      if String.ofList seen = "/" ++ name then
        some ([.raw (String.ofList body), .closing name], text)
      else none
    else some ([], rawEnd name body (seen ++ [c]))

/-- Reads characters one after the other. -/
def Mode.read : Mode → List Char → Option (List Token × Mode)
  | m, [] => some ([], m)
  | m, c :: cs => do
    let (ts, m) ← m.step c
    let (us, m) ← m.read cs
    return (ts ++ us, m)

/-- The tokens of a text, none if it is no markup. -/
def tokens? (s : String) : Option (List Token) :=
  match Mode.text.read s.toList with
  | some (ts, .text) => some ts
  | _ => none

/-- What an attribute reads as. -/
def Attribute.reading (a : Attribute) : String × Option String := (a.label, a.content)

mutual

/-- The tokens of a node; `f` gives the tokens of what is foreign. -/
def Node.tokens {ρ : Type} (f : ρ → List Token) : Node ρ → List Token
  | .text s => s.toList.map .char
  | .element tag attributes children =>
    .opening tag.name (attributes.map Attribute.reading) ::
      if tag.isVoid then [] else Node.tokensAll f children ++ [.closing tag.name]
  | .foreign x => f x

/-- The tokens of a list of nodes. -/
def Node.tokensAll {ρ : Type} (f : ρ → List Token) : List (Node ρ) → List Token
  | [] => []
  | n :: rest => Node.tokens f n ++ Node.tokensAll f rest

end

variable {ρ : Type} (f : ρ → List Token)

/-- The tokens of some nodes are those of each, in their order. -/
theorem Node.tokensAll_eq_flatMap (ns : List (Node ρ)) :
    Node.tokensAll f ns = ns.flatMap (Node.tokens f) := by
  induction ns with
  | nil => simp [tokensAll]
  | cons n ns ih => simp [tokensAll, ih]

/-- Whether tags nest: every start tag of an element that is not void has its end tag. The first
    list names the elements that are open, innermost first. -/
def nests (void : List String) : List String → List Token → Bool
  | [], [] => true
  | _ :: _, [] => false
  | stack, .opening name _ :: ts =>
    if void.contains name then nests void stack ts else nests void (name :: stack) ts
  | [], .closing _ :: _ => false
  | name :: stack, .closing name' :: ts => name == name' && nests void stack ts
  | stack, _ :: ts => nests void stack ts

/-- The names in a token are among the given ones. -/
def Token.Within (tags attributes : List String) : Token → Prop
  | opening name as => name ∈ tags ∧ ∀ a ∈ as, a.1 ∈ attributes
  | closing name => name ∈ tags
  | _ => True

namespace Token

/-- The body of a style sheet or a script. -/
def raw? : Token → Option String
  | raw body => some body
  | _ => none

/-- The words of the characters, which spaces divide. -/
def words : List Char → List (List Char)
  | [] => [[]]
  | c :: cs =>
    match c, words cs with
    | ' ', ws => [] :: ws
    | c, w :: ws => (c :: w) :: ws
    | c, [] => [[c]]

/-- Whether a start tag with these attributes has a class. -/
def hasClass (name : String) (attributes : List (String × Option String)) : Bool :=
  match attributes.lookup "class" with
  | some (some value) => (words value.toList).contains name.toList
  | _ => false

/-- The name of the tab whose panel starts here, if one does. -/
def panelTab? : Token → Option (Option String)
  | opening "section" attributes =>
    if hasClass "tab-panel" attributes then some (attributes.lookup "data-tab-id").join else none
  | _ => none

end Token

/-- Markup whose tags nest and whose names are all among the given ones. -/
structure WellFormed (void tags attributes : List String) (ts : List Token) : Prop where
  nests : nests void [] ts = true
  within : ∀ t ∈ ts, t.Within tags attributes

end Dashboard.Markup
