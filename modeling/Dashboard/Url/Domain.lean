import Dashboard.Text.Composed
import Dashboard.Url.Address
import Dashboard.Url.LabelTable
import Dashboard.Url.NameTable
import Dashboard.Url.Punycode
/-!
# Names of hosts

A name may be written with any letters. Capitals, wide forms and the like stand for their plain
forms; what is left has to be made of labels that a name may have, with points between them.

* `Url.plainForm?` — what a character stands for.
* `Url.domain?` — the labels' characters of a host, percent escapes read.
-/

namespace Dashboard.Url

open Text

/-- ASCII characters that a name cannot have. -/
def isForbidden (c : Char) : Bool :=
  c.toNat ≤ 0x20 || c.toNat == 0x7F ||
    ['%', '#', '/', ':', '<', '>', '?', '@', '[', '\\', ']', '^', '|'].contains c

/-- What a character stands for in a name, none if a name cannot have it. -/
def plainForm? (c : Char) : Option (List Char) :=
  if c.toNat < 0x80 then some [c.toLower]
  else if inRanges refused c.toNat then none
  else if inRanges dropped c.toNat then some []
  else some ((Table.find? formRows c).getD [c])

/-- Characters in plain form, if a name can have them. -/
def plain? (cs : List Char) : Option (List Char) := do
  let forms ← cs.mapM plainForm?
  let name := composed forms.flatten
  guard (!name.any isForbidden)
  return name

def isAscii (cs : List Char) : Bool := cs.all (·.toNat < 0x80)

/-! ### Joiners

Two invisible characters tell whether letters are joined. They stand after a mark that suppresses a
vowel; the one that keeps letters apart stands also between letters that would be joined. -/

def keepApart : Char := '\u200C'

def keepTogether : Char := '\u200D'

/-- The place of the marks that suppress a vowel. -/
def vowelSuppressors : Nat := 9

/-- Whether the nearest character, apart from those across which letters are joined, is in one of
    two sets. -/
def meets (one other : List (Nat × Nat)) (cs : List Char) : Bool :=
  match cs.dropWhile fun c => inRanges joiningThrough c.toNat with
  | c :: _ => inRanges one c.toNat || inRanges other c.toNat
  | [] => false

/-- Whether a joiner may stand between characters, of which the last before it comes first in
    `before`. -/
def joinerFits (joiner : Char) (before after : List Char) : Bool :=
  match before with
  | [] => false
  | c :: _ =>
    markClass c == vowelSuppressors ||
      (joiner == keepApart && meets joiningBefore joiningBoth before &&
        meets joiningAfter joiningBoth after)

/-- Whether every joiner among characters that follow others may stand where it stands. -/
def joinersFit (before : List Char) : List Char → Bool
  | [] => true
  | c :: rest =>
    ((c != keepApart && c != keepTogether) || joinerFits c before rest) &&
      joinersFit (c :: before) rest

/-! ### Labels -/

/-- A label that is not ASCII has at most this many characters. -/
def longestLabel : Nat := 1000

/-- A label that is written in ASCII but is not ASCII is written with at most this many characters
    after its mark. -/
def longestWritten : Nat := 2000

/-- Whether characters can make a label. ASCII characters always can. -/
def isLabel (cs : List Char) : Bool :=
  isAscii cs ||
    (!(cs.head?.any fun c => inRanges marks c.toNat) && joinersFit [] cs &&
      cs.length ≤ longestLabel)

/-- The label that a text in ASCII stands for. It has to be one that cannot be written in ASCII
    itself, and it has to be in its plain form. -/
def decodeLabel? (cs : List Char) : Option (List Char) := do
  guard (cs.length ≤ longestWritten)
  let label ← Punycode.decode? cs
  guard (!isAscii label && isLabel label && label.all (fun c => plainForm? c == some [c]) &&
    plain? label == some label)
  return label

/-- A label as it is meant. -/
def label? (cs : List Char) : Option (List Char) :=
  match cs with
  | 'x' :: 'n' :: '-' :: '-' :: rest => decodeLabel? rest
  | _ => if isLabel cs then some cs else none

/-! ### Direction of writing -/

/-- How a character is written. -/
inductive Direction where
  | left
  | right
  /-- A digit of a number among letters that are written from right to left. -/
  | arabicDigit
  | digit
  /-- A mark that is written as what it is put onto. -/
  | mark
  /-- A sign that is written as its neighbours. -/
  | neutral
  | separator
  deriving DecidableEq, Repr

/-- How a character is written. -/
def Direction.of (c : Char) : Direction :=
  if c.isDigit then digit
  else if c.isAlpha then left
  else if inRanges writtenRight c.toNat then right
  else if inRanges arabicDigits c.toNat then arabicDigit
  else if inRanges digits c.toNat then digit
  else if inRanges unspacedMarks c.toNat then mark
  else if inRanges neutrals c.toNat then neutral
  else if inRanges separators c.toNat then separator
  else left

/-- Whether a name with such a character has letters that are written from right to left. -/
def Direction.isRight : Direction → Bool
  | right | arabicDigit => true
  | _ => false

/-- Whether the directions within a label go together: a label keeps the direction of its first
    letter and ends, apart from marks, with such a letter or with a digit; only one kind of digits
    stands among letters that are written from right to left. -/
def directionsFit (label : List Char) : Bool :=
  let ds := label.map Direction.of
  let last := (ds.reverse.dropWhile (· == .mark)).head?
  !ds.contains .separator &&
    match ds with
    | [] => true
    | .right :: _ =>
      !ds.contains .left && !(ds.contains .digit && ds.contains .arabicDigit) &&
        (last == some .right || last == some .digit || last == some .arabicDigit)
    | .left :: _ =>
      !ds.contains .right && !ds.contains .arabicDigit &&
        (last == some .left || last == some .digit)
    | _ => false

/-- Whether the directions within all labels go together. Where all is written from left to right
    there is no rule. -/
def allDirectionsFit (labels : List (List Char)) : Bool :=
  labels.all isAscii || !(labels.any fun l => l.any fun c => (Direction.of c).isRight) ||
    labels.all directionsFit

/-! ### Names -/

/-- Bytes with the percent escapes among them read. -/
def percentDecode : List UInt8 → List UInt8
  | [] => []
  | 0x25 :: a :: b :: rest =>
    match digit? 16 (Char.ofNat a.toNat), digit? 16 (Char.ofNat b.toNat) with
    | some x, some y => (x * 16 + y).toUInt8 :: percentDecode rest
    | _, _ => 0x25 :: percentDecode (a :: b :: rest)
  | c :: rest => c :: percentDecode rest

/-- The name in plain form, with its labels as they are meant. -/
def domain? (host : List Char) : Option (List Char) := do
  let bytes := percentDecode (String.ofList host).toUTF8.toList
  let written ← String.fromUTF8? ⟨bytes.toArray⟩
  let labels ← ((← plain? written.toList).splitOn '.').mapM label?
  guard (allDirectionsFit labels)
  return (['.'] : List Char).intercalate labels

end Dashboard.Url
