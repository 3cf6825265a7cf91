/-!
# Markup

Views are trees of elements. Text and attribute values are held as they are and escaped where the
tree is written, so no text can turn into markup.

* `Markup.Tag` — the elements that views are made of.
* `Markup.Attribute` — an attribute with a value, one without, or data for a script.
* `Markup.Node` — text, an element, or something foreign that is written as it is. A tree of type
  `Node Empty` holds nothing foreign.
-/

namespace Dashboard.Markup

/-- The elements that views are made of. -/
inductive Tag where
  | html | head | metadata | title | body | nav
  | part | div | h3 | h4 | p | span | code | label
  | table | thead | tbody | tr | th | td
  | ul | li
  | button | input | select | option
  deriving DecidableEq, Repr

namespace Tag

def name : Tag → String
  | html => "html"
  | head => "head"
  | metadata => "meta"
  | title => "title"
  | body => "body"
  | nav => "nav"
  | part => "section"
  | div => "div"
  | h3 => "h3"
  | h4 => "h4"
  | p => "p"
  | span => "span"
  | code => "code"
  | label => "label"
  | table => "table"
  | thead => "thead"
  | tbody => "tbody"
  | tr => "tr"
  | th => "th"
  | td => "td"
  | ul => "ul"
  | li => "li"
  | button => "button"
  | input => "input"
  | select => "select"
  | option => "option"

/-- Elements without content and without an end tag. -/
def isVoid : Tag → Bool
  | input => true
  | metadata => true
  | _ => false

end Tag

/-- The attributes that have a value. -/
inductive Attribute.Name where
  | charset | classes | id | kind | placeholder | style | title | value
  /-- The name of what the element does. -/
  | action
  /-- The tab that the element and everything in it belongs to. -/
  | tabId
  deriving DecidableEq, Repr

/-- The attributes that have none. -/
inductive Attribute.Flag where
  | checked | selected | hidden
  deriving DecidableEq, Repr

def Attribute.Name.text : Attribute.Name → String
  | charset => "charset"
  | classes => "class"
  | id => "id"
  | kind => "type"
  | placeholder => "placeholder"
  | style => "style"
  | title => "title"
  | value => "value"
  | action => "data-action"
  | tabId => "data-tab-id"

def Attribute.Flag.text : Attribute.Flag → String
  | checked => "checked"
  | selected => "selected"
  | hidden => "hidden"

/-- An attribute of an element. -/
inductive Attribute where
  | plain (name : Attribute.Name) (value : String)
  | flag (name : Attribute.Flag)
  /-- Data that the element carries for what it does. -/
  | data (name value : String)
  deriving DecidableEq, Repr

/-- A flag that is set or absent. -/
def Attribute.flagIf (on : Bool) (name : Attribute.Flag) : List Attribute :=
  if on then [.flag name] else []

/-- Data given as pairs of name and value. -/
def Attribute.ofPairs (pairs : List (String × String)) : List Attribute :=
  pairs.map fun p => .data p.1 p.2

/-- A piece of markup. -/
inductive Node (ρ : Type) where
  | text (s : String)
  | element (tag : Tag) (attributes : List Attribute) (children : List (Node ρ))
  | foreign (x : ρ)

/-- Markup that holds nothing foreign. -/
abbrev Pure := Node Empty

namespace Node

variable {ρ σ : Type}

mutual

/-- Changes what is foreign. -/
def map (f : ρ → σ) : Node ρ → Node σ
  | text s => text s
  | element tag attributes children => element tag attributes (mapAll f children)
  | foreign x => foreign (f x)

/-- `map` for a list of nodes. -/
def mapAll (f : ρ → σ) : List (Node ρ) → List (Node σ)
  | [] => []
  | n :: rest => map f n :: mapAll f rest

end

/-- Markup without anything foreign, to be put among markup that has it. -/
def lift (n : Node Empty) : Node ρ := n.map Empty.elim

end Node

end Dashboard.Markup
