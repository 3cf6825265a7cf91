/-!
# Tables of characters

Properties of characters are kept as text: words with white space between them. Code points are
written in base sixteen, with a hyphen between the first and the last of neighbours that have a
property in common.

* `Table.ranges` — a set of characters, from words such as `41-5A` or `AA`.
* `Table.rows` — characters with the characters that they stand for, from words such as `AA=61`,
  `C0-C5=E0`, `100-12E/2=101` (every second one) or `BC=31.2044.34`.
* `Table.find?` — what a character stands for.
-/

namespace Dashboard.Text

/-- Whether a code point lies in one of some ranges. -/
def inRanges (ranges : List (Nat × Nat)) (n : Nat) : Bool :=
  ranges.any fun r => r.1 ≤ n && n ≤ r.2

namespace Table

/-- The value of a digit of base sixteen. -/
def digitValue (c : Char) : Nat :=
  if c.isDigit then c.toNat - '0'.toNat else c.toNat - 'A'.toNat + 10

/-- A code point. -/
def codePoint (cs : List Char) : Nat := cs.foldl (fun n c => 16 * n + digitValue c) 0

/-- The words of a table. -/
def words (text : String) : List (List Char) :=
  (text.toList.splitOnP fun c => c == ' ' || c == '\n').filter fun w => !w.isEmpty

/-- One code point, or the first and the last of several. -/
def range (word : List Char) : Nat × Nat :=
  let first := word.takeWhile (· != '-')
  match word.dropWhile (· != '-') with
  | _ :: last => (codePoint first, codePoint last)
  | [] => (codePoint first, codePoint first)

/-- A set of characters. -/
def ranges (text : String) : List (Nat × Nat) := (words text).map range

/-- Characters from `first` to `last`, every `step`-th one, that stand for others. Several stand for
    one each, in order; a single one may stand for any number. -/
structure Row where
  first : Nat
  last : Nat
  step : Nat
  forms : List Nat
  deriving Repr

namespace Row

def contains (r : Row) (n : Nat) : Bool :=
  r.first ≤ n && n ≤ r.last && (n - r.first) % r.step == 0

/-- What a character of the row stands for. -/
def formsOf (r : Row) (n : Nat) : List Char :=
  r.forms.map fun form => Char.ofNat (form + (n - r.first))

/-- The row that a word tells. -/
def ofWord (word : List Char) : Row :=
  let span := word.takeWhile (· != '=')
  let forms := (word.dropWhile (· != '=')).drop 1
  let (first, last) := range (span.takeWhile (· != '/'))
  { first, last
    step := if span.contains '/' then 2 else 1
    forms := if forms.isEmpty then [] else (forms.splitOn '.').map codePoint }

end Row

/-- Characters with the characters that they stand for. -/
def rows (text : String) : List Row := (words text).map Row.ofWord

/-- What a character stands for, if the table says so. -/
def find? (rows : List Row) (c : Char) : Option (List Char) :=
  (rows.find? (·.contains c.toNat)).map (·.formsOf c.toNat)

end Table

end Dashboard.Text
