import Dashboard.Json.Parser
import Dashboard.Json.Printer
/-!
# Printed JSON reads back

The text of a value reads as the value, whatever characters its strings hold, if the reader takes
its numbers and does not find it nested too deep.

* `Grammar.Pieces` — the pieces of a string by one rule for each kind, which are those that the
  reader finds.
* `Grammar.string?_quote` — the text of a string reads as the string.
* `Number.Reads` — the text of a number reads as the number.
* `Json.Nested` — values that are not nested too deep and whose numbers are of one kind.
* `Json.Fits` — those whose numbers read back, `Fits.reads` — their text reads as they are.
* `Json.readRaw?_print`, `Json.read?_print` — the same of a whole text.
* `Fits.plain` — the text holds no control character.
-/

namespace Dashboard

namespace Json.Grammar

/-! ### The pieces of a string -/

/-- The pieces that stand before a closing quote, one rule for each kind of piece. -/
inductive Pieces : List Char → List Piece → List Char → Prop where
  | close (rest : List Char) : Pieces ('"' :: rest) [] rest
  | unit {a b c d : Char} {n : Nat} {cs rest : List Char} {ps : List Piece}
      (hn : unit? a b c d = some n) (h : Pieces cs ps rest) :
      Pieces ('\\' :: 'u' :: a :: b :: c :: d :: cs) (.unit n :: ps) rest
  | escape {c d : Char} {cs rest : List Char} {ps : List Piece}
      (hd : escaped? c = some d) (h : Pieces cs ps rest) :
      Pieces ('\\' :: c :: cs) (.char d :: ps) rest
  | plain {c : Char} {cs rest : List Char} {ps : List Piece} (hquote : c ≠ '"')
      (hplain : ¬ (c.toNat < 0x20 ∨ c = '\\')) (h : Pieces cs ps rest) :
      Pieces (c :: cs) (.char c :: ps) rest

/-- What the reader finds follows the rules. -/
theorem pieces_of_pieces? {cs rest : List Char} {ps : List Piece}
    (h : pieces? cs = some (ps, rest)) : Pieces cs ps rest := by
  -- Each case in which the reader finds something is one of the rules.
  induction cs using pieces?.induct generalizing ps rest with
  | case1 => cases h
  | case2 after =>
    rw [pieces?] at h
    cases h
    exact .close _
  | case3 a b c d cs n qs after hqs hn ih =>
    rw [pieces?, hn, hqs] at h
    cases h
    exact .unit hn (ih hqs)
  | case4 a b c d cs hfail ih =>
    rw [pieces?] at h
    split at h
    · rename_i hn hqs
      exact (hfail _ _ _ hn hqs).elim
    · cases h
  | case5 c cs hshort d qs after hqs hd ih =>
    rw [pieces?, hd, hqs] at h
    · cases h
      exact .escape hd (ih hqs)
    · exact hshort
  | case6 c cs hshort hfail ih =>
    rw [pieces?] at h
    · split at h
      · rename_i hd hqs
        exact (hfail _ _ _ hd hqs).elim
      · cases h
    · exact hshort
  | case7 c cs hquote hunit hback hbad =>
    rw [pieces?, if_pos hbad] at h
    · cases h
    · exact hquote
    · exact hunit
    · exact hback
  | case8 c cs hquote hunit hback hplain qs after hqs ih =>
    rw [pieces?, if_neg hplain, hqs] at h
    · cases h
      exact .plain hquote hplain (ih hqs)
    · exact hquote
    · exact hunit
    · exact hback
  | case9 c cs hquote hunit hback hplain hqs ih =>
    rw [pieces?, if_neg hplain, hqs] at h
    · cases h
    · exact hquote
    · exact hunit
    · exact hback

/-- The reader finds the pieces that stand there. -/
theorem pieces?_eq_some {cs rest : List Char} {ps : List Piece} :
    pieces? cs = some (ps, rest) ↔ Pieces cs ps rest := by
  refine ⟨pieces_of_pieces?, fun h => ?_⟩
  induction h with
  | close => rfl
  | unit hn _ ih => rw [pieces?, hn, ih]
  | @escape c d cs rest ps hd _ ih =>
    -- No escape by letter is written with the letter of numbers.
    have hnot : c ≠ 'u' := by
      rintro rfl
      cases hd
    rw [pieces?, hd, ih]
    exact fun _ _ _ _ _ h => absurd h hnot
  | plain hquote hplain _ ih =>
    have hback := (not_or.mp hplain).2
    rw [pieces?, if_neg hplain, ih]
    · exact hquote
    · exact fun _ _ _ _ _ h => absurd h hback
    · exact fun _ _ h => absurd h hback

/-- The number of a character that is no surrogate denotes the character. -/
theorem joinPieces?_unit {n : Nat} (hn : n < 0xD800) (ps : List Piece) :
    joinPieces? (.unit n :: ps) = (joinPieces? ps).map (Char.ofNat n :: ·) := by
  have hone : ¬ (0xD800 ≤ n ∧ n < 0xE000) := fun h => by omega
  have hhigh : ¬ (0xD800 ≤ n ∧ n < 0xDC00) := fun h => by omega
  have hlast : ¬ (0xDC00 ≤ n ∧ n < 0xE000) := fun h => by omega
  -- Whatever follows, a number of this kind stands for itself.
  cases ps with
  | nil =>
    rw [joinPieces?.eq_def]
    dsimp only
    rw [if_neg hone]
    rfl
  | cons p ps =>
    rw [joinPieces?.eq_def]
    dsimp only
    rw [if_neg hhigh, if_neg hlast]

/-! ### The text of a string -/

/-- The characters with an escape of two characters that is none of their number. -/
def named : List Char := ['"', '\\', '\x08', '\t', '\n', '\x0c', '\r']

/-- What the reader makes of the text of a character: a control character without a named escape is
    given by its number. -/
def pieceOf (c : Char) : Piece :=
  if c ∉ named ∧ c.toNat < 0x20 then .unit c.toNat else .char c

/-- Without a named escape a control character is written by its number, and any other as it is. -/
theorem quoteChar_of_not_mem {c : Char} (hn : c ∉ named) :
    quoteChar c = if c.toNat < 0x20 then
        ['\\', 'u', '0', '0', hexDigit (c.toNat / 16), hexDigit (c.toNat % 16)]
      else [c] := by
  simp only [named, List.mem_cons, List.not_mem_nil, or_false, not_or] at hn
  obtain ⟨h1, h2, h3, h4, h5, h6, h7⟩ := hn
  rw [quoteChar, if_neg h1, if_neg h2, if_neg h3, if_neg h4, if_neg h5, if_neg h6, if_neg h7]

/-- Two digits of base sixteen after two zeros denote the number of a control character. -/
theorem unit?_hexDigit {n : Nat} (hn : n < 0x20) :
    unit? '0' '0' (hexDigit (n / 16)) (hexDigit (n % 16)) = some n := by
  have hall : ∀ k < 0x20, unit? '0' '0' (hexDigit (k / 16)) (hexDigit (k % 16)) = some k := by
    decide
  exact hall n hn

/-- The text of a character reads as one piece. -/
theorem Pieces.quoteChar {c : Char} {cs rest : List Char} {ps : List Piece}
    (hp : Pieces cs ps rest) : Pieces (quoteChar c ++ cs) (pieceOf c :: ps) rest := by
  by_cases hn : c ∈ named
  · have hpiece : pieceOf c = .char c := if_neg fun h => h.1 hn
    rw [hpiece]
    simp only [named, List.mem_cons, List.not_mem_nil, or_false] at hn
    rcases hn with rfl | rfl | rfl | rfl | rfl | rfl | rfl <;> exact hp.escape rfl
  · by_cases hc : c.toNat < 0x20
    · have hpiece : pieceOf c = .unit c.toNat := if_pos ⟨hn, hc⟩
      rw [hpiece, quoteChar_of_not_mem hn, if_pos hc]
      exact hp.unit (unit?_hexDigit hc)
    · have hpiece : pieceOf c = .char c := if_neg fun h => hc h.2
      rw [hpiece, quoteChar_of_not_mem hn, if_neg hc]
      simp only [named, List.mem_cons, not_or] at hn
      obtain ⟨hquote, hback, -⟩ := hn
      exact hp.plain hquote (not_or.mpr ⟨hc, hback⟩)

/-- The text of the characters of a string stands for one piece each. -/
theorem pieces_quote (cs rest : List Char) :
    Pieces (cs.flatMap quoteChar ++ '"' :: rest) (cs.map pieceOf) rest := by
  induction cs with
  | nil => exact .close rest
  | cons c cs ih =>
    rw [List.flatMap_cons, List.append_assoc, List.map_cons]
    exact ih.quoteChar

/-- No surrogates are among the pieces, so each is a character. -/
theorem joinPieces?_map (cs : List Char) : joinPieces? (cs.map pieceOf) = some cs := by
  induction cs with
  | nil => rfl
  | cons c cs ih =>
    rw [List.map_cons]
    by_cases hc : c ∉ named ∧ c.toNat < 0x20
    · have hpiece : pieceOf c = .unit c.toNat := if_pos hc
      -- The number of a control character is below those of the surrogates.
      have hlow : c.toNat < 0xD800 := Nat.lt_trans hc.2 (by decide)
      rw [hpiece, joinPieces?_unit hlow, ih, Option.map_some, Char.ofNat_toNat]
    · have hpiece : pieceOf c = .char c := if_neg hc
      rw [hpiece, joinPieces?, ih, Option.map_some]

/-- The text of a string reads as the string. -/
theorem string?_quote (s : String) (rest : List Char) :
    string? (s.toList.flatMap quoteChar ++ '"' :: rest) = some (s, rest) := by
  rw [string?, pieces?_eq_some.mpr (pieces_quote s.toList rest)]
  show (joinPieces? (s.toList.map pieceOf)).bind (fun cs => some (String.ofList cs, rest)) = _
  rw [joinPieces?_map, Option.bind_some, String.ofList_toList]

/-! ### What may follow a value -/

/-- A number is over before these characters. -/
def Ends (rest : List Char) : Prop :=
  ∀ c ∈ rest.head?, c.isDigit = false ∧ c ≠ '.' ∧ c ≠ 'e' ∧ c ≠ 'E'

/-- A number is over at the end of the text. -/
theorem ends_nil : Ends [] := by
  intro c hc
  cases hc

/-- A number is over before a character that cannot continue it. -/
theorem ends_cons {c : Char} (hc : c.isDigit = false ∧ c ≠ '.' ∧ c ≠ 'e' ∧ c ≠ 'E')
    (rest : List Char) : Ends (c :: rest) := by
  rintro _ ⟨⟩
  exact hc

/-- No white space is passed over where none stands. -/
theorem skipSpace_of_not {c : Char} (hc : isSpace c = false) (cs : List Char) :
    skipSpace (c :: cs) = c :: cs := by
  rw [skipSpace, List.dropWhile_cons_of_neg (by simp [hc])]

/-- The characters begin with one with which a value may begin. -/
def Begins (cs : List Char) : Prop :=
  ∃ c rest, cs = c :: rest ∧ isSpace c = false ∧ c ≠ ']'

/-- Whatever follows, a value may still begin. -/
theorem Begins.append {cs : List Char} (h : Begins cs) (ds : List Char) : Begins (cs ++ ds) := by
  obtain ⟨c, rest, rfl, hspace, hc⟩ := h
  exact ⟨c, rest ++ ds, rfl, hspace, hc⟩

/-- The characters hold no control character, so they stand on one line. -/
def Plain (cs : List Char) : Prop := ∀ c ∈ cs, 0x20 ≤ c.toNat

instance : DecidablePred Plain := fun cs => List.decidableBAll (fun c : Char => 0x20 ≤ c.toNat) cs

theorem plain_cons {c : Char} {cs : List Char} : Plain (c :: cs) ↔ 0x20 ≤ c.toNat ∧ Plain cs :=
  List.forall_mem_cons

theorem plain_append {cs ds : List Char} : Plain (cs ++ ds) ↔ Plain cs ∧ Plain ds :=
  List.forall_mem_append

/-- Characters between two others. -/
theorem plain_between {first last : Char} {cs : List Char} (hf : 0x20 ≤ first.toNat)
    (hl : 0x20 ≤ last.toNat) (hcs : Plain cs) : Plain (first :: (cs ++ [last])) := by
  have hlast : Plain [last] := by
    intro c hc
    rwa [List.mem_singleton.mp hc]
  exact plain_cons.mpr ⟨hf, plain_append.mpr ⟨hcs, hlast⟩⟩

end Json.Grammar

open Json.Grammar

/-- The text of a number reads as the number, whatever follows that does not belong to it. -/
structure Number.Reads (n : Number) : Prop where
  begins : Begins n.text.toList
  plain : Plain n.text.toList
  value?_text : ∀ steps depth rest, Ends rest →
    value? (steps + 1) depth (n.text.toList ++ rest) = some (.number n, rest)

namespace Json

/-- Values in which arrays and objects are nested at most so deep and all numbers are of one kind. -/
inductive Nested (kind : Number → Prop) : Nat → Json → Prop where
  | null {depth : Nat} : Nested kind depth .null
  | bool {depth : Nat} (b : Bool) : Nested kind depth (.bool b)
  | number {depth : Nat} {n : Number} (hn : kind n) : Nested kind depth (.number n)
  | string {depth : Nat} (s : String) : Nested kind depth (.string s)
  | array {depth : Nat} {items : List Json} (hx : ∀ x ∈ items, Nested kind depth x) :
      Nested kind (depth + 1) (.array items)
  | object {depth : Nat} {ms : Members} (hx : ∀ m ∈ ms, Nested kind depth m.2) :
      Nested kind (depth + 1) (.object ms)

/-- Values whose text reads as they are where arrays and objects may be nested so deep. -/
abbrev Fits : Nat → Json → Prop := Nested Number.Reads

/-- The text of a value reads as the value. Three steps for each character suffice. -/
def Returns (depth : Nat) (x : Json) : Prop :=
  ∀ steps rest, 3 * x.print.toList.length ≤ steps → Ends rest →
    value? steps depth (x.print.toList ++ rest) = some (x, rest)

/-! ### The text of a value -/

/-- The text of an array stands in brackets. -/
@[simp] theorem toList_print_array (items : List Json) :
    (print (.array items)).toList = '[' :: ((printItems items).toList ++ [']']) := by
  rw [print, String.toList_append, String.toList_append]
  rfl

/-- The text of an object stands in braces. -/
@[simp] theorem toList_print_object (ms : Members) :
    (print (.object ms)).toList = '\x7b' :: ((printMembers ms).toList ++ ['\x7d']) := by
  rw [print, String.toList_append, String.toList_append]
  rfl

@[simp] theorem toList_print_string (s : String) :
    (print (.string s)).toList = '"' :: (s.toList.flatMap quoteChar ++ ['"']) := by
  rw [print, toList_quote, quoteChars]

/-- Between two items stands a comma. -/
theorem toList_printItems_cons (x y : Json) (items : List Json) :
    (printItems (x :: y :: items)).toList =
      x.print.toList ++ ',' :: (printItems (y :: items)).toList := by
  rw [printItems, String.toList_append, String.toList_append, List.append_assoc]
  rfl

/-- The text of a member. -/
def printMember (m : String × Json) : List Char :=
  '"' :: (m.1.toList.flatMap quoteChar ++ '"' :: ':' :: m.2.print.toList)

/-- The text of a single member. -/
theorem toList_printMembers_singleton (m : String × Json) :
    (printMembers [m]).toList = printMember m := by
  obtain ⟨name, x⟩ := m
  rw [printMembers, String.toList_append, String.toList_append, toList_quote, quoteChars]
  simp [printMember]

/-- Between two members stands a comma. -/
theorem toList_printMembers_cons (m n : String × Json) (ms : Members) :
    (printMembers (m :: n :: ms)).toList =
      printMember m ++ ',' :: (printMembers (n :: ms)).toList := by
  obtain ⟨name, x⟩ := m
  rw [printMembers, String.toList_append, String.toList_append, String.toList_append,
    String.toList_append, toList_quote, quoteChars]
  simp [printMember]

/-- The text of a value begins as values do. -/
theorem Fits.begins {depth : Nat} {x : Json} (hx : x.Fits depth) : Begins x.print.toList := by
  cases hx with
  | null => exact ⟨'n', _, rfl, by decide, by decide⟩
  | bool b =>
    cases b with
    | true => exact ⟨'t', _, rfl, by decide, by decide⟩
    | false => exact ⟨'f', _, rfl, by decide, by decide⟩
  | number hn => exact hn.begins
  | string s => exact ⟨'"', _, toList_print_string s, by decide, by decide⟩
  | array => exact ⟨'[', _, toList_print_array _, by decide, by decide⟩
  | object => exact ⟨'\x7b', _, toList_print_object _, by decide, by decide⟩

/-! ### What the reader does at a character -/

section Dispatch

variable (steps depth : Nat) (rest : List Char)

/-- The word for null reads as null. -/
theorem value?_null : value? (steps + 1) depth ('n' :: 'u' :: 'l' :: 'l' :: rest) =
    some (.null, rest) := by
  rw [value?, skipSpace_of_not (by decide)]
  rfl

/-- The word for truth reads as true. -/
theorem value?_true : value? (steps + 1) depth ('t' :: 'r' :: 'u' :: 'e' :: rest) =
    some (.bool true, rest) := by
  rw [value?, skipSpace_of_not (by decide)]
  rfl

/-- The word for falsehood reads as false. -/
theorem value?_false : value? (steps + 1) depth ('f' :: 'a' :: 'l' :: 's' :: 'e' :: rest) =
    some (.bool false, rest) := by
  rw [value?, skipSpace_of_not (by decide)]
  rfl

/-- After a quote the reader goes on with a string. -/
theorem value?_string : value? (steps + 1) depth ('"' :: rest) =
    (Grammar.string? rest).map fun (s, rest) => (.string s, rest) := by
  rw [value?, skipSpace_of_not (by decide)]
  rfl

/-- Brackets with nothing between them are the empty array. -/
theorem value?_array_nil : value? (steps + 1) (depth + 1) ('[' :: ']' :: rest) =
    some (.array [], rest) := by
  rw [value?, skipSpace_of_not (by decide)]
  rfl

/-- After a bracket the reader goes on with items, one level deeper. -/
theorem value?_array {cs : List Char} (hcs : Begins cs) :
    value? (steps + 1) (depth + 1) ('[' :: cs) =
      (items? steps depth cs).map fun (xs, rest) => (.array xs, rest) := by
  obtain ⟨c, cs, rfl, hspace, hc⟩ := hcs
  have hbracket : skipSpace ('[' :: c :: cs) = '[' :: c :: cs := skipSpace_of_not (by decide) _
  have hfirst : skipSpace (c :: cs) = c :: cs := skipSpace_of_not hspace cs
  simp only [value?, hbracket, hfirst]
  split
  · rename_i heq
    exact absurd (List.cons.inj heq).1 hc
  · rfl

/-- Braces with nothing between them are the empty object. -/
theorem value?_object_nil : value? (steps + 1) (depth + 1) ('\x7b' :: '\x7d' :: rest) =
    some (.object [], rest) := by
  rw [value?, skipSpace_of_not (by decide)]
  rfl

/-- After a brace and a quote the reader goes on with members, one level deeper. -/
theorem value?_object : value? (steps + 1) (depth + 1) ('\x7b' :: '"' :: rest) =
    (Grammar.members? steps depth ('"' :: rest)).map fun (ms, rest) => (.object ms, rest) := by
  rw [value?, skipSpace_of_not (by decide)]
  rfl

/-- A member is a name, a colon and a value. -/
theorem member?_quote {name : String} {after : List Char}
    (hname : Grammar.string? rest = some (name, ':' :: after)) :
    Grammar.member? (steps + 1) depth ('"' :: rest) =
      (value? steps depth after).map fun (x, rest) => ((name, x), rest) := by
  have hquote : skipSpace ('"' :: rest) = '"' :: rest := skipSpace_of_not (by decide) rest
  have hcolon : skipSpace (':' :: after) = ':' :: after := skipSpace_of_not (by decide) after
  simp only [Grammar.member?, hquote, hname, hcolon]

end Dispatch

/-! ### Reading the text back -/

variable {depth : Nat}

/-- The text of items reads as the items. -/
theorem items?_printItems {items : List Json} (hne : items ≠ [])
    (hx : ∀ x ∈ items, x.Returns depth) (steps : Nat)
    (hs : 3 * (printItems items).toList.length + 1 ≤ steps) (rest : List Char) :
    items? steps depth ((printItems items).toList ++ ']' :: rest) = some (items, rest) := by
  induction items generalizing steps with
  | nil => exact absurd rfl hne
  | cons x items ih =>
    obtain ⟨steps, rfl⟩ : ∃ k, steps = k + 1 := ⟨steps - 1, by omega⟩
    have hreturns := hx x List.mem_cons_self
    cases items with
    | nil =>
      rw [printItems] at hs ⊢
      rw [items?, hreturns steps (']' :: rest) (by omega) (ends_cons (by decide) rest)]
      rfl
    | cons y items =>
      rw [toList_printItems_cons, List.length_append, List.length_cons] at hs
      have hrest := ih (List.cons_ne_nil y items)
        (fun z hz => hx z (List.mem_cons_of_mem _ hz)) steps (by omega)
      -- The comma ends the first item, and the others follow it.
      rw [toList_printItems_cons, List.append_assoc, List.cons_append, items?,
        hreturns steps _ (by omega) (ends_cons (by decide) _)]
      show ((items? steps depth _).map fun (xs, rest) => (x :: xs, rest)) = _
      rw [hrest]
      rfl

/-- The text of a member reads as the member. -/
theorem member?_printMember {m : String × Json} (hx : m.2.Returns depth) {steps : Nat}
    (hs : 3 * (printMember m).length ≤ steps + 1) {rest : List Char} (hr : Ends rest) :
    Grammar.member? (steps + 1) depth (printMember m ++ rest) = some (m, rest) := by
  obtain ⟨name, x⟩ := m
  have hlen : x.print.toList.length + 3 ≤ (printMember (name, x)).length := by
    simp only [printMember, List.length_cons, List.length_append]
    omega
  have hname := string?_quote name (':' :: (x.print.toList ++ rest))
  have hvalue := hx steps rest (by dsimp only; omega) hr
  have htext : printMember (name, x) ++ rest =
      '"' :: (name.toList.flatMap quoteChar ++ '"' :: ':' :: (x.print.toList ++ rest)) := by
    simp [printMember]
  rw [htext, member?_quote steps depth _ hname, hvalue]
  rfl

/-- The text of members reads as the members. -/
theorem members?_printMembers {ms : Members} (hne : ms ≠ [])
    (hx : ∀ m ∈ ms, m.2.Returns depth) (steps : Nat)
    (hs : 3 * (printMembers ms).toList.length + 1 ≤ steps) (rest : List Char) :
    Grammar.members? steps depth ((printMembers ms).toList ++ '\x7d' :: rest) =
      some (ms, rest) := by
  induction ms generalizing steps with
  | nil => exact absurd rfl hne
  | cons m ms ih =>
    -- One step goes to the members and one to the member itself.
    obtain ⟨steps, rfl⟩ : ∃ k, steps = k + 2 := by
      have hpos : 0 < (printMembers (m :: ms)).toList.length := by
        cases ms with
        | nil => simp [toList_printMembers_singleton, printMember]
        | cons n ms => simp [toList_printMembers_cons, printMember]
      exact ⟨steps - 2, by omega⟩
    have hreturns := hx m List.mem_cons_self
    cases ms with
    | nil =>
      rw [toList_printMembers_singleton] at hs ⊢
      rw [Grammar.members?, member?_printMember hreturns (by omega) (ends_cons (by decide) rest)]
      rfl
    | cons n ms =>
      rw [toList_printMembers_cons, List.length_append, List.length_cons] at hs
      have hrest := ih (List.cons_ne_nil n ms)
        (fun k hk => hx k (List.mem_cons_of_mem _ hk)) (steps + 1) (by omega)
      rw [toList_printMembers_cons, List.append_assoc, List.cons_append, Grammar.members?,
        member?_printMember hreturns (by omega) (ends_cons (by decide) _)]
      show ((Grammar.members? (steps + 1) depth _).map fun (ms, rest) => (m :: ms, rest)) = _
      rw [hrest]
      rfl

/-- The text of a value is not empty, so there is a step in which it is read. -/
theorem Fits.returns {x : Json} (hx : x.Fits depth)
    (h : ∀ steps rest, 3 * x.print.toList.length ≤ steps + 1 → Ends rest →
      value? (steps + 1) depth (x.print.toList ++ rest) = some (x, rest)) : x.Returns depth := by
  intro steps rest hs hr
  obtain ⟨c, cs, hcs, -⟩ := hx.begins
  obtain ⟨steps, rfl⟩ : ∃ k, steps = k + 1 := by
    rw [hcs, List.length_cons] at hs
    exact ⟨steps - 1, by omega⟩
  exact h steps rest hs hr

/-- The text of items begins as the first of them does. -/
theorem begins_printItems {x : Json} (hx : Begins x.print.toList) (items : List Json) :
    Begins (printItems (x :: items)).toList := by
  cases items with
  | nil =>
    rw [printItems]
    exact hx
  | cons y items =>
    rw [toList_printItems_cons]
    exact hx.append _

/-- The text of members begins with a quote. -/
theorem printMembers_cons (m : String × Json) (ms : Members) :
    ∃ rest, (printMembers (m :: ms)).toList = '"' :: rest := by
  cases ms with
  | nil => exact ⟨_, toList_printMembers_singleton m⟩
  | cons n ms => exact ⟨_, toList_printMembers_cons m n ms⟩

/-- An array reads back if its items do. -/
theorem Fits.returns_array {items : List Json} (hx : ∀ x ∈ items, x.Fits depth)
    (ih : ∀ x ∈ items, x.Returns depth) : (Json.array items).Returns (depth + 1) := by
  refine Fits.returns (.array hx) fun steps rest hs _ => ?_
  rw [toList_print_array] at hs ⊢
  rw [List.length_cons, List.length_append, List.length_singleton] at hs
  rw [List.cons_append, List.append_assoc, List.singleton_append]
  cases items with
  | nil => exact value?_array_nil steps depth rest
  | cons y items =>
    have hbegins := begins_printItems (hx y List.mem_cons_self).begins items
    have hitems := items?_printItems (List.cons_ne_nil y items) ih steps (by omega) rest
    rw [value?_array steps depth (hbegins.append _), hitems]
    rfl

/-- An object reads back if the values of its members do. -/
theorem Fits.returns_object {ms : Members} (hx : ∀ m ∈ ms, m.2.Fits depth)
    (ih : ∀ m ∈ ms, m.2.Returns depth) : (Json.object ms).Returns (depth + 1) := by
  refine Fits.returns (.object hx) fun steps rest hs _ => ?_
  rw [toList_print_object] at hs ⊢
  rw [List.length_cons, List.length_append, List.length_singleton] at hs
  rw [List.cons_append, List.append_assoc, List.singleton_append]
  cases ms with
  | nil => exact value?_object_nil steps depth rest
  | cons m ms =>
    have hmembers := members?_printMembers (List.cons_ne_nil m ms) ih steps (by omega) rest
    obtain ⟨text, htext⟩ := printMembers_cons m ms
    rw [htext, List.cons_append] at hmembers ⊢
    rw [value?_object, hmembers]
    rfl

/-- The text of a value reads as the value. -/
theorem Fits.reads {x : Json} (hx : x.Fits depth) : x.Returns depth := by
  -- The induction is on how the value is made, not on the steps of the reader.
  induction hx with
  | null =>
    refine Fits.returns .null fun steps rest _ _ => ?_
    rw [print]
    exact value?_null steps _ rest
  | bool b =>
    refine Fits.returns (.bool b) fun steps rest _ _ => ?_
    cases b with
    | true =>
      rw [print]
      exact value?_true steps _ rest
    | false =>
      rw [print]
      exact value?_false steps _ rest
  | number hn =>
    refine Fits.returns (.number hn) fun steps rest _ hr => ?_
    rw [print]
    exact hn.value?_text steps _ rest hr
  | string s =>
    refine Fits.returns (.string s) fun steps rest _ _ => ?_
    rw [toList_print_string, List.cons_append, List.append_assoc, value?_string,
      List.singleton_append, string?_quote]
    rfl
  | array hx ih => exact returns_array hx ih
  | object hx ih => exact returns_object hx ih

/-- The text of a value reads as the value. -/
theorem readRaw?_print {x : Json} (hx : x.Fits depthLimit) : readRaw? x.print = some x := by
  have hread := hx.reads (stepsFor x.print.toList) [] (by rw [stepsFor]; omega) ends_nil
  rw [List.append_nil] at hread
  rw [readRaw?, hread]
  rfl

/-- The text of a value reads as the value in normal form. -/
theorem read?_print {x : Json} (hx : x.Fits depthLimit) : read? x.print = some x.normal := by
  rw [read?, readRaw?_print hx, Option.map_some]

/-! ### The text is one line -/

/-- The text of a string holds no control character, whatever the string holds. -/
theorem plain_quoteChars (cs : List Char) : Plain (cs.flatMap quoteChar) := by
  intro c hc
  obtain ⟨d, -, hc⟩ := List.mem_flatMap.mp hc
  by_cases hn : d ∈ named
  · -- The named escapes are finitely many.
    have hall : named.all fun d => Plain (quoteChar d) := by decide
    exact of_decide_eq_true (List.all_eq_true.mp hall d hn) c hc
  · by_cases hd : d.toNat < 0x20
    · -- So are the control characters.
      rw [quoteChar_of_not_mem hn, if_pos hd] at hc
      have hall : ∀ n < 0x20,
          Plain ['\\', 'u', '0', '0', hexDigit (n / 16), hexDigit (n % 16)] := by
        decide
      exact hall d.toNat hd c hc
    · rw [quoteChar_of_not_mem hn, if_neg hd, List.mem_singleton] at hc
      rw [hc]
      exact Nat.le_of_not_lt hd

/-- Items are plain together if each is. -/
theorem plain_printItems {items : List Json} (h : ∀ x ∈ items, Plain x.print.toList) :
    Plain (printItems items).toList := by
  induction items with
  | nil =>
    rw [printItems]
    exact List.forall_mem_nil _
  | cons x items ih =>
    have hx := h x List.mem_cons_self
    have hitems := ih fun y hy => h y (List.mem_cons_of_mem _ hy)
    cases items with
    | nil =>
      rw [printItems]
      exact hx
    | cons y items =>
      rw [toList_printItems_cons]
      exact plain_append.mpr ⟨hx, plain_cons.mpr ⟨by decide, hitems⟩⟩

/-- A member is plain if its value is. -/
theorem plain_printMember {m : String × Json} (h : Plain m.2.print.toList) :
    Plain (printMember m) := by
  have hname := plain_quoteChars m.1.toList
  have hvalue : Plain ('"' :: ':' :: m.2.print.toList) :=
    plain_cons.mpr ⟨by decide, plain_cons.mpr ⟨by decide, h⟩⟩
  exact plain_cons.mpr ⟨by decide, plain_append.mpr ⟨hname, hvalue⟩⟩

/-- Members are plain together if the values are. -/
theorem plain_printMembers {ms : Members} (h : ∀ m ∈ ms, Plain m.2.print.toList) :
    Plain (printMembers ms).toList := by
  induction ms with
  | nil =>
    rw [printMembers]
    exact List.forall_mem_nil _
  | cons m ms ih =>
    have hm := plain_printMember (h m List.mem_cons_self)
    have hms := ih fun k hk => h k (List.mem_cons_of_mem _ hk)
    cases ms with
    | nil =>
      rw [toList_printMembers_singleton]
      exact hm
    | cons n ms =>
      rw [toList_printMembers_cons]
      exact plain_append.mpr ⟨hm, plain_cons.mpr ⟨by decide, hms⟩⟩

/-- The text of a value holds no control character. -/
theorem Fits.plain {x : Json} (hx : x.Fits depth) : Plain x.print.toList := by
  induction hx with
  | null =>
    rw [print]
    decide
  | bool b => cases b <;> (rw [print]; decide)
  | number hn =>
    rw [print]
    exact hn.plain
  | string s =>
    rw [toList_print_string]
    exact plain_between (by decide) (by decide) (plain_quoteChars s.toList)
  | array _ ih =>
    rw [toList_print_array]
    exact plain_between (by decide) (by decide) (plain_printItems ih)
  | object _ ih =>
    rw [toList_print_object]
    exact plain_between (by decide) (by decide) (plain_printMembers ih)

end Json

end Dashboard
