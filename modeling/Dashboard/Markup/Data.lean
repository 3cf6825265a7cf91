import Dashboard.Markup.Printer
import Dashboard.Text.Basic
/-!
# Data attributes read from their text

The data of an element are written as attributes with their values between double quotes. No escaped
name and no escaped value has a double quote, so the quotes divide the text: what stands before a
value is its name, and behind it stands the next name or nothing.

* `Attribute.isLabelChar` — the characters that stand in the name of an attribute as they are.
* `Attribute.IsTemplateSafe` — a name of such characters.
* `Attribute.dataName?` — the name before a value, `Attribute.readPairs?` — the pairs of a text.
-/

namespace Dashboard.Markup.Attribute

/-- White space, `/`, `=` and `>` end the name of an attribute, and a character that is written as
    an entity would read otherwise in a name. -/
def isLabelChar (c : Char) : Bool :=
  (Text.Entity.ofChar? c).isNone && !Text.isBlank c && c != '=' && c != '/'

/-- A name that a template can hold as it is. -/
def IsTemplateSafe (name : String) : Prop := ∀ c ∈ name.toList, isLabelChar c = true

instance : DecidablePred IsTemplateSafe := fun name =>
  decidable_of_iff (name.toList.all isLabelChar = true) List.all_eq_true

/-- The name of data, from what is written before the value. -/
def dataName? : List Char → Option String
  | ' ' :: 'd' :: 'a' :: 't' :: 'a' :: '-' :: cs =>
    if cs.dropWhile isLabelChar = ['='] then some (String.ofList (cs.takeWhile isLabelChar))
    else none
  | _ => none

/-- Names and values in turn, with nothing behind the last value. -/
def pairs? : List (List Char) → Option (List (String × String))
  | [[]] => some []
  | before :: value :: rest => do
    let name ← dataName? before
    let others ← pairs? rest
    return (name, Text.unescape (String.ofList value)) :: others
  | _ => none

/-- The names and values of data attributes. -/
def readPairs? (s : String) : Option (List (String × String)) := pairs? (s.toList.splitOn '"')

end Dashboard.Markup.Attribute
