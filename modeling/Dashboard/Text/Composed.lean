import Dashboard.Text.ComposedTable
/-!
# One spelling for letters with marks

A letter with marks may be one character or several, and marks at different places of the letter may
be given in any order. In composed form every letter is put together with its marks as far as there
are characters for that, and the marks that are left are in one order.

* `markClass` — the place that a mark takes on its letter, zero for all that is no such mark.
* `decompose` — a character taken apart, `compose?` — two characters put together.
* `inOrder` — characters with their marks in order.
* `composed` — the composed form of characters.
-/

namespace Dashboard.Text

/-- The place that a mark takes on its letter, zero for all that is no such mark. -/
def markClass (c : Char) : Nat :=
  if c.toNat < 0x300 then 0
  else ((markClasses.find? fun k => inRanges k.2 c.toNat).map (·.1)).getD 0

/-! ### Syllables

A Korean syllable is put together from two or three letters by their numbers. -/

namespace Syllable

def firstCode : Nat := 0xAC00

/-- The codes before the first initial, vowel and final. The final letter may be absent. -/
def initialCode : Nat := 0x1100

def vowelCode : Nat := 0x1161

def finalCode : Nat := 0x11A7

def initials : Nat := 19

def vowels : Nat := 21

/-- The number of finals, absence being one of them. -/
def finals : Nat := 28

def count : Nat := initials * vowels * finals

/-- The letters of a syllable. -/
def letters? (c : Char) : Option (List Char) :=
  let n := c.toNat - firstCode
  if c.toNat < firstCode ∨ count ≤ n then none
  else
    some <|
      [Char.ofNat (initialCode + n / (vowels * finals)),
        Char.ofNat (vowelCode + n / finals % vowels)] ++
      if n % finals = 0 then [] else [Char.ofNat (finalCode + n % finals)]

/-- The syllable of an initial and a vowel. -/
def ofLetters? (a b : Char) : Option Char :=
  if initialCode ≤ a.toNat ∧ a.toNat < initialCode + initials ∧
      vowelCode ≤ b.toNat ∧ b.toNat < vowelCode + vowels then
    some (Char.ofNat
      (firstCode + ((a.toNat - initialCode) * vowels + (b.toNat - vowelCode)) * finals))
  else none

/-- A syllable without a final, and a final. -/
def withFinal? (a b : Char) : Option Char :=
  if firstCode ≤ a.toNat ∧ a.toNat < firstCode + count ∧ (a.toNat - firstCode) % finals = 0 ∧
      finalCode < b.toNat ∧ b.toNat < finalCode + finals then
    some (Char.ofNat (a.toNat + (b.toNat - finalCode)))
  else none

end Syllable

/-! ### Taking apart -/

/-- Takes a composite apart until its letter is none. The first argument bounds the steps. -/
def decomposeIn : Nat → Char → List Char
  | 0, c => [c]
  | steps + 1, c =>
    match Table.find? composites c with
    | some (letter :: marks) => decomposeIn steps letter ++ marks
    | _ => [c]

/-- A letter has at most four marks in one character. -/
def mostMarks : Nat := 4

/-- A character taken apart. -/
def decompose (c : Char) : List Char :=
  if c.toNat < 0xC0 then [c]
  else
    match Syllable.letters? c with
    | some letters => letters
    | none =>
      match Table.find? respellings c with
      | some cs => cs
      | none => decomposeIn mostMarks c

/-! ### Order of marks -/

/-- Characters with the marks behind each letter in the order of their places. Marks at the same
    place stay as they are. -/
def inOrder (cs : List Char) : List Char :=
  ((cs.splitBy fun _ c => markClass c != 0).map fun letter =>
    letter.mergeSort fun c d => markClass c ≤ markClass d).flatten

/-! ### Putting together -/

/-- The character that two others are put together to. -/
def compose? (a b : Char) : Option Char :=
  ((Syllable.ofLetters? a b).or (Syllable.withFinal? a b)).or <|
    (composites.find? (·.forms == [a.toNat, b.toNat])).map fun r => Char.ofNat r.first

/-- Puts a letter together with what follows. `marks` are the marks between that are left, the last
    of them first; a mark at the same place keeps the letter from a mark behind it. -/
def composeFrom (letter : Char) (marks : List Char) : List Char → List Char
  | [] => letter :: marks.reverse
  | c :: rest =>
    let near := marks.head?.all fun m => markClass m < markClass c
    match if near then compose? letter c else none with
    | some composite => composeFrom composite marks rest
    | none =>
      if markClass c = 0 then letter :: (marks.reverse ++ composeFrom c [] rest)
      else composeFrom letter (c :: marks) rest

/-- Puts letters together with what follows them; marks at the beginning have no letter. -/
def compose : List Char → List Char
  | [] => []
  | c :: rest => if markClass c = 0 then composeFrom c [] rest else c :: compose rest

/-- The composed form of characters. Before the first mark there is nothing to put together. -/
def composed (cs : List Char) : List Char :=
  if cs.all (·.toNat < 0x300) then cs else compose (inOrder (cs.flatMap decompose))

end Dashboard.Text
