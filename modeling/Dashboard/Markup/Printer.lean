import Dashboard.Markup.Basic
import Dashboard.Text.Escape
/-!
# The text of markup

Elements are written without any white space of their own. Attribute values stand in double quotes.
-/

namespace Dashboard.Markup

/-- The text of an attribute, with a space before it. -/
def Attribute.print : Attribute → String
  | plain name value => " " ++ name.text ++ "=\"" ++ Text.escape value ++ "\""
  | flag name => " " ++ name.text
  | data name value => " data-" ++ Text.escape name ++ "=\"" ++ Text.escape value ++ "\""

/-- The text of a list of attributes. -/
def Attribute.printAll : List Attribute → String
  | [] => ""
  | a :: rest => a.print ++ printAll rest

/-- A start tag. -/
def Tag.opening (tag : Tag) (attributes : List Attribute) : String :=
  "<" ++ tag.name ++ Attribute.printAll attributes ++ ">"

/-- An end tag. -/
def Tag.closing (tag : Tag) : String := "</" ++ tag.name ++ ">"

namespace Node

variable {ρ : Type}

mutual

/-- The text of a node; `draw` gives the text of what is foreign. -/
def print (draw : ρ → String) : Node ρ → String
  | text s => Text.escape s
  | element tag attributes children =>
    if tag.isVoid then tag.opening attributes
    else tag.opening attributes ++ printAll draw children ++ tag.closing
  | foreign x => draw x

/-- The text of a list of nodes. -/
def printAll (draw : ρ → String) : List (Node ρ) → String
  | [] => ""
  | n :: rest => print draw n ++ printAll draw rest

end

/-- What is written for nodes one after the other is written for each. -/
theorem printAll_append (draw : ρ → String) (ns ms : List (Node ρ)) :
    printAll draw (ns ++ ms) = printAll draw ns ++ printAll draw ms := by
  induction ns with
  | nil => simp [printAll]
  | cons n ns ih => simp [printAll, ih, String.append_assoc]

/-- The text of a node that holds nothing foreign. -/
def html (n : Node Empty) : String := n.print Empty.elim

/-- The text of nodes that hold nothing foreign. -/
def htmlAll (ns : List (Node Empty)) : String := printAll Empty.elim ns

end Node

end Dashboard.Markup
