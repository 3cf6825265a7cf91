/-!
# Lines of bytes

A line ends with a line feed, before which a carriage return may stand; the last line may lack the
end.
-/

namespace Dashboard.Text

def lineFeed : UInt8 := 10

def carriageReturn : UInt8 := 13

/-- A line without the carriage return at its end. -/
def dropReturn (line : List UInt8) : List UInt8 :=
  if line.getLast? = some carriageReturn then line.dropLast else line

/-- The lines of some bytes. -/
def linesOf (bytes : List UInt8) : List (List UInt8) :=
  let pieces := bytes.splitOn lineFeed
  match pieces.getLast? with
  | some [] | none => pieces.dropLast.map dropReturn
  | some last => pieces.dropLast.map dropReturn ++ [last]

/-- The bytes of a text in UTF-8. -/
def utf8 (s : String) : List UInt8 := s.toUTF8.toList

/-- The text that bytes hold in UTF-8. -/
def ofUtf8? (bytes : List UInt8) : Option String := String.fromUTF8? ⟨bytes.toArray⟩

end Dashboard.Text
