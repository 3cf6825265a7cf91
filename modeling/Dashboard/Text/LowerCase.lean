import Dashboard.Text.CaseTable
import Dashboard.Text.Table
/-!
# Text in lower case

Search compares texts without regard to case. Every character is replaced by its lower case, which
for a capital I with a dot consists of two characters, and for a capital sigma depends on where in
a word it stands.

* `lower` — a text in lower case.
* `containsText` — whether a text occurs in another.
-/

namespace Dashboard.Text

def isCased (c : Char) : Bool := inRanges casedRanges c.toNat

/-- Whether a character is passed over in the search for a neighbour with case. -/
def isPassedOver (c : Char) : Bool := inRanges passedRanges c.toNat

def CaseRun.contains (r : CaseRun) (n : Nat) : Bool :=
  r.first ≤ n && n ≤ r.last && (n - r.first) % r.step == 0

/-- The lower case of a character, for those where it is a single one whatever stands beside it. -/
def lowerChar (c : Char) : Char :=
  if c.toNat < 0x80 then c.toLower
  else
    match lowerRuns.find? (·.contains c.toNat) with
    | some r => Char.ofNat (c.toNat + r.offset).toNat
    | none => c

/-- Whether the nearest character that is not passed over has case. -/
def meetsCased (cs : List Char) : Bool :=
  match cs.dropWhile isPassedOver with
  | c :: _ => isCased c
  | [] => false

/-- The lower case of characters that follow others, of which the last comes first in `before`.
    A sigma takes its final form at the end of a word. -/
def lowerFrom (before : List Char) : List Char → List Char
  | [] => []
  | c :: rest =>
    let here :=
      if c = 'Σ' then [if meetsCased before && !meetsCased rest then 'ς' else 'σ']
      else if c = 'İ' then ['i', '\u0307']
      else [lowerChar c]
    here ++ lowerFrom (c :: before) rest

/-- The text in lower case. -/
def lower (s : String) : String := String.ofList (lowerFrom [] s.toList)

/-- Whether the characters of the first list occur in the second, one after the other. -/
def occursIn (part : List Char) : List Char → Bool
  | [] => part.isEmpty
  | c :: rest => part.isPrefixOf (c :: rest) || occursIn part rest

/-- Whether a text contains another. -/
def containsText (whole part : String) : Bool := occursIn part.toList whole.toList

end Dashboard.Text
