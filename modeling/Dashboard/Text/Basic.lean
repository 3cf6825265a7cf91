/-!
# White space, and letters A to Z without case

Names of daemons, severities and spelled-out truth values are compared without regard to the case
of the letters A to Z; every other character stands for itself.

* `isBlank` — the Unicode property `White_Space`.
* `trim` — drops white space at both ends and keeps everything between.
* `isBlankText` — nothing but white space, so nothing left after `trim`.
* `lowerAscii` — the letters A to Z in lower case, `eqIgnoringCase` — equality up to their case.
-/

namespace Dashboard.Text

/-- The characters with the Unicode property `White_Space`. The zero-width space U+200B and the
    byte order mark U+FEFF are not among them. -/
def isBlank (c : Char) : Bool :=
  let n := c.toNat
  (9 ≤ n && n ≤ 13) || n == 0x20 || n == 0x85 || n == 0xA0 || n == 0x1680 ||
    (0x2000 ≤ n && n ≤ 0x200A) || n == 0x2028 || n == 0x2029 || n == 0x202F || n == 0x205F ||
    n == 0x3000

/-- `trim` on characters. -/
def trimChars (cs : List Char) : List Char :=
  ((cs.dropWhile isBlank).reverse.dropWhile isBlank).reverse

/-- The text without the white space at its ends. -/
def trim (s : String) : String :=
  String.ofList (trimChars s.toList)

/-- A text with no character besides white space. -/
def isBlankText (s : String) : Bool :=
  s.toList.all isBlank

@[simp] theorem toList_trim (s : String) : (trim s).toList = trimChars s.toList := by
  simp [trim]

/-- The letters A to Z in lower case, everything else unchanged. -/
def lowerAscii (s : String) : String :=
  String.ofList (s.toList.map Char.toLower)

/-- Equality up to the case of the letters A to Z. -/
def eqIgnoringCase (s t : String) : Bool :=
  s.toList.map Char.toLower == t.toList.map Char.toLower

theorem eqIgnoringCase_iff (s t : String) :
    eqIgnoringCase s t = true ↔ lowerAscii s = lowerAscii t := by
  simp [eqIgnoringCase, lowerAscii, String.ofList_inj]

end Dashboard.Text
