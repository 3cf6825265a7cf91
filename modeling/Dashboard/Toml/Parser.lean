import Dashboard.Toml.Scalar
/-!
# Reading TOML

* `Toml.statements?` — the lines of a document that say something.
* `Toml.read?` — the table that a document makes, none if the text is no document.
-/

namespace Dashboard.Toml

open Scalar

namespace Grammar

/-- How deep arrays and tables within braces may be nested. -/
def depthLimit : Nat := 79

/-- How many names a name with dots may have. -/
def pathLimit : Nat := 79

def isBare (c : Char) : Bool := c.isAlphanum || c == '-' || c == '_'

/-- A name without dots. -/
def name? (cs : List Char) : Option (String × List Char) :=
  match cs with
  | '"' :: _ => (line? cs).map fun (s, rest) => (String.ofList s, rest)
  | '\'' :: _ => (line? cs).map fun (s, rest) => (String.ofList s, rest)
  | _ =>
    let s := cs.takeWhile isBare
    if s.isEmpty then none else some (String.ofList s, cs.dropWhile isBare)

/-- Names with dots between them, and what follows them and the space around them. The first
    argument bounds the number of names. -/
def names? : Nat → List Char → Option (List String × List Char)
  | 0, _ => none
  | steps + 1, cs => do
    let (name, rest) ← name? (skipSpace cs)
    match skipSpace rest with
    | '.' :: rest => (names? steps rest).map fun (names, rest) => (name :: names, rest)
    | rest => return ([name], rest)

/-- A name with the names of the tables that lead to it. -/
def path? (cs : List Char) : Option (Path × List Char) := do
  let (names, rest) ← names? pathLimit cs
  return (⟨names.dropLast, ← names.getLast?⟩, rest)

/-- Skips space, line breaks and comments; `commented` tells that a comment has begun. -/
def skipLines (commented : Bool) : List Char → List Char
  | [] => []
  | '\n' :: rest => skipLines false rest
  | '\r' :: '\n' :: rest => skipLines false rest
  | c :: rest =>
    if commented then if isPlain c then skipLines true rest else c :: rest
    else if isSpace c then skipLines false rest
    else if c = '#' then skipLines true rest
    else c :: rest

mutual

/-- A value, of which arrays and tables are nested at most `depth` deep. The first argument bounds
    the number of steps. -/
def value? : Nat → Nat → List Char → Option (Value × List Char)
  | 0, _, _ => none
  | steps + 1, depth, cs =>
    match cs with
    | '"' :: _ => (string? cs).map fun (s, rest) => (.string (String.ofList s), rest)
    | '\'' :: _ => (string? cs).map fun (s, rest) => (.string (String.ofList s), rest)
    | 't' :: 'r' :: 'u' :: 'e' :: rest => some (.bool true, rest)
    | 'f' :: 'a' :: 'l' :: 's' :: 'e' :: rest => some (.bool false, rest)
    | '[' :: rest =>
      match depth with
      | 0 => none
      | depth + 1 => (items? steps depth rest).map fun (vs, rest) => (.array vs, rest)
    | '\x7b' :: rest =>
      match depth with
      | 0 => none
      | depth + 1 =>
        match skipSpace rest with
        | '\x7d' :: rest => some (.table [], rest)
        | rest => do
          let (pairs, rest) ← pairs? steps depth rest
          return (← inlineTable? pairs, rest)
    | _ => (moment? cs).or (number? cs)

/-- The items of an array, up to its closing bracket. A comma may stand after the last one. -/
def items? : Nat → Nat → List Char → Option (List Value × List Char)
  | 0, _, _ => none
  | steps + 1, depth, cs =>
    match skipLines false cs with
    | ']' :: rest => some ([], rest)
    | cs => do
      let (v, rest) ← value? steps depth cs
      match skipLines false rest with
      | ',' :: rest => (items? steps depth rest).map fun (vs, rest) => (v :: vs, rest)
      | ']' :: rest => return ([v], rest)
      | _ => none

/-- The assignments of a table within braces that is not empty, up to its closing brace. -/
def pairs? : Nat → Nat → List Char → Option (List (Path × Value) × List Char)
  | 0, _, _ => none
  | steps + 1, depth, cs => do
    let (path, rest) ← path? cs
    let (v, rest) ← value? steps depth (skipSpace (← after? '=' rest))
    match skipSpace rest with
    | ',' :: rest => (pairs? steps depth rest).map fun (pairs, rest) => ((path, v) :: pairs, rest)
    | '\x7d' :: rest => return ([(path, v)], rest)
    | _ => none

end

/-- What follows the end of a line, before which space and a comment may stand. -/
def lineEnd? (cs : List Char) : Option (List Char) :=
  let rest :=
    match skipSpace cs with
    | '#' :: rest => rest.dropWhile isPlain
    | rest => rest
  if rest.isEmpty then some [] else lineBreak? rest

/-- An assignment or a header, up to what follows it on its line. -/
def statement? (cs : List Char) : Option (Statement × List Char) :=
  match cs with
  | '[' :: '[' :: rest => do
    let (path, rest) ← path? rest
    return (.element path, ← after? ']' (← after? ']' rest))
  | '[' :: rest => do
    let (path, rest) ← path? rest
    return (.table path, ← after? ']' rest)
  | _ => do
    let (path, rest) ← path? cs
    let (v, rest) ← value? (2 * cs.length + 2) depthLimit (skipSpace (← after? '=' rest))
    return (.assign path v, rest)

/-- The lines of a document that say something. The first argument bounds their number. -/
def lines? : Nat → List Char → Option (List Statement)
  | 0, _ => none
  | steps + 1, cs =>
    match skipLines false cs with
    | [] => some []
    | cs => do
      let (s, rest) ← statement? cs
      return s :: (← lines? steps (← lineEnd? rest))

end Grammar

/-- The lines of a document that say something. A mark of the order of bytes may stand before the
    first one. -/
def statements? (s : String) : Option (List Statement) :=
  let cs :=
    match s.toList with
    | '\uFEFF' :: cs => cs
    | cs => cs
  Grammar.lines? (cs.length + 1) cs

/-- The table that a document makes. -/
def read? (s : String) : Option Value := (statements? s).bind ofStatements?

end Dashboard.Toml
