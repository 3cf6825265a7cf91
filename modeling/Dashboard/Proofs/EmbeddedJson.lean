import Dashboard.Proofs.JsonValues
/-!
# JSON text inside a script

In a script the characters `<`, `>` and `&` of JSON text are written by their numbers. They stand in
strings only, where an escape denotes the character, so a text reads as it did.

* `embed` — the characters of a text as they stand in a script.
* `Grammar.span_embed` — white space, digits and the like end where they did.
* `Grammar.Pieces.embed`, `Grammar.joinPieces?_escape` — strings.
* `Grammar.number?_embed` — numbers.
* `Grammar.embeds` — values, by induction on the steps of the reader.
* `readRaw?_embed`, `readRaw?_embedded` — the same of a whole text.
-/

namespace Dashboard.Json

/-- The characters of JSON text as they stand in a script. -/
def embed (cs : List Char) : List Char := cs.flatMap embedChar

/-- The characters that are written by their numbers. -/
def IsEscaped (c : Char) : Prop := c = '<' ∨ c = '>' ∨ c = '&'

instance : DecidablePred IsEscaped := fun c =>
  inferInstanceAs (Decidable (c = '<' ∨ c = '>' ∨ c = '&'))

theorem toList_embedded (v : Json) : v.embedded.toList = embed v.print.toList := by
  rw [embedded, String.toList_ofList, embed]

namespace Grammar

variable {c : Char} {cs rest : List Char}

/-! ### Single characters -/

/-- A character that is not escaped stands as it is. -/
theorem embed_cons_of_not (hc : ¬ IsEscaped c) (cs : List Char) : embed (c :: cs) = c :: embed cs := by
  simp only [IsEscaped, not_or] at hc
  obtain ⟨hlt, hgt, hamp⟩ := hc
  simp [embed, embedChar, hlt, hgt, hamp]

/-- The number of a character in four digits of base sixteen. -/
theorem embed_cons_of_isEscaped (hc : IsEscaped c) (cs : List Char) :
    ∃ a b, embed (c :: cs) = '\\' :: 'u' :: '0' :: '0' :: a :: b :: embed cs ∧
      unit? '0' '0' a b = some c.toNat := by
  rcases hc with rfl | rfl | rfl
  · exact ⟨'3', 'c', rfl, by decide⟩
  · exact ⟨'3', 'e', rfl, by decide⟩
  · exact ⟨'2', '6', rfl, by decide⟩

theorem not_isEscaped_of_hexValue? {n : Nat} (h : hexValue? c = some n) : ¬ IsEscaped c := by
  rintro (rfl | rfl | rfl) <;> cases h

theorem not_isEscaped_of_escaped? {d : Char} (h : escaped? c = some d) : ¬ IsEscaped c := by
  rintro (rfl | rfl | rfl) <;> cases h

/-- No escape by letter denotes one of the escaped characters. -/
theorem not_isEscaped_escaped? {d : Char} (h : escaped? c = some d) : ¬ IsEscaped d := by
  unfold escaped? at h
  split at h <;> cases h <;> decide

/-- Characters of a kind that has no backslash and none of the escaped characters end where they
did. -/
theorem span_embed {p : Char → Bool} (hback : p '\\' = false) (hp : ∀ c, IsEscaped c → p c = false)
    (cs : List Char) :
    (embed cs).takeWhile p = cs.takeWhile p ∧ (embed cs).dropWhile p = embed (cs.dropWhile p) := by
  induction cs with
  | nil => exact ⟨rfl, rfl⟩
  | cons c cs ih =>
    by_cases hc : IsEscaped c
    · obtain ⟨a, b, hembed, -⟩ := embed_cons_of_isEscaped hc cs
      simp [hembed, hback, hp c hc]
    · rw [embed_cons_of_not hc]
      cases hpc : p c <;> simp [hpc, ih, embed_cons_of_not hc]

/-- White space is passed over where it was. -/
theorem skipSpace_embed (cs : List Char) : skipSpace (embed cs) = embed (skipSpace cs) := by
  refine (span_embed (by decide) ?_ cs).2
  rintro c (rfl | rfl | rfl) <;> decide

/-! ### Strings -/

/-- An escaped character is given by its number. -/
def Piece.escape : Piece → Piece
  | .char c => if IsEscaped c then .unit c.toNat else .char c
  | .unit n => .unit n

theorem Piece.escape_char_of_not (hc : ¬ IsEscaped c) : Piece.escape (.char c) = .char c := if_neg hc

/-- Four digits of base sixteen stay as they are. -/
theorem embed_unit {a b c d : Char} {n : Nat} (hn : unit? a b c d = some n) (cs : List Char) :
    embed (a :: b :: c :: d :: cs) = a :: b :: c :: d :: embed cs := by
  simp only [unit?, Option.bind_eq_bind, Option.bind_eq_some_iff] at hn
  obtain ⟨_, ha, _, hb, _, hc, _, hd, -⟩ := hn
  rw [embed_cons_of_not (not_isEscaped_of_hexValue? ha),
    embed_cons_of_not (not_isEscaped_of_hexValue? hb),
    embed_cons_of_not (not_isEscaped_of_hexValue? hc),
    embed_cons_of_not (not_isEscaped_of_hexValue? hd)]

/-- What stands in a string is the same, with numbers for the escaped characters. -/
theorem Pieces.embed {ps : List Piece} (h : Pieces cs ps rest) :
    Pieces (embed cs) (ps.map Piece.escape) (embed rest) := by
  induction h with
  | close rest =>
    rw [embed_cons_of_not (by decide)]
    exact .close _
  | unit hn _ ih =>
    -- A number: its digits stay.
    rw [embed_cons_of_not (by decide), embed_cons_of_not (by decide), embed_unit hn]
    exact ih.unit hn
  | escape hd _ ih =>
    -- An escape by letter: the letter stays, and it denotes none of the escaped characters.
    rw [embed_cons_of_not (by decide), embed_cons_of_not (not_isEscaped_of_escaped? hd),
      List.map_cons, Piece.escape_char_of_not (not_isEscaped_escaped? hd)]
    exact ih.escape hd
  | @plain c cs rest ps hquote hplain _ ih =>
    -- A character by itself: the only case in which the text changes.
    by_cases hc : IsEscaped c
    · obtain ⟨a, b, hembed, hn⟩ := embed_cons_of_isEscaped hc cs
      rw [hembed, List.map_cons, Piece.escape, if_pos hc]
      exact ih.unit hn
    · rw [embed_cons_of_not hc, List.map_cons, Piece.escape_char_of_not hc]
      exact ih.plain hquote hplain

theorem toNat_lt_of_isEscaped (hc : IsEscaped c) : c.toNat < 0xD800 := by
  rcases hc with rfl | rfl | rfl <;> decide

/-- Numbers denote the escaped characters, and no surrogate meets its other half in them. -/
theorem joinPieces?_escape (ps : List Piece) :
    joinPieces? (ps.map Piece.escape) = joinPieces? ps := by
  induction ps using joinPieces?.induct with
  | case1 => rfl
  -- A character: it is written as it is or by its number, and both denote it.
  | case2 c ps ih =>
    rw [List.map_cons, joinPieces?]
    by_cases hc : IsEscaped c
    · rw [Piece.escape, if_pos hc, joinPieces?_unit (toNat_lt_of_isEscaped hc), ih, Char.ofNat_toNat]
    · rw [Piece.escape_char_of_not hc, joinPieces?, ih]
  | case3 n hn => rfl
  | case4 n hn => rfl
  | case5 n ps hn m hm ih => simp [Piece.escape, joinPieces?, hn, hm, ih]
  | case6 n ps hn m hm => simp [Piece.escape, joinPieces?, hn, hm]
  -- The first half of a surrogate: what follows is no second half before it is escaped nor after.
  | case7 n ps hn c =>
    by_cases hc : IsEscaped c
    · have hlt := toNat_lt_of_isEscaped hc
      have hlow : ¬ (0xDC00 ≤ c.toNat ∧ c.toNat < 0xE000) := fun h => by omega
      simp [Piece.escape, joinPieces?, hn, hc, hlow]
    · simp [Piece.escape, joinPieces?, hn, hc]
  | case8 n p ps hn hlast => simp [Piece.escape, joinPieces?, hn, hlast]
  | case9 n p ps hn hlast ih =>
    rw [List.map_cons] at ih
    rw [List.map_cons, List.map_cons, joinPieces?.eq_def, joinPieces?.eq_def (.unit n :: p :: ps)]
    simp only [Piece.escape.eq_2, if_neg hn, if_neg hlast]
    rw [ih]

/-- A string reads as it did. -/
theorem string?_embed {s : String} (h : string? cs = some (s, rest)) :
    string? (embed cs) = some (s, embed rest) := by
  simp only [string?, Option.bind_eq_bind, Option.bind_eq_some_iff] at h ⊢
  obtain ⟨⟨ps, after⟩, hps, ds, hds, heq⟩ := h
  cases heq
  have hembed := pieces?_eq_some.mpr (pieces?_eq_some.mp hps).embed
  exact ⟨_, hembed, ds, (joinPieces?_escape ps).trans hds, rfl⟩

/-! ### Numbers -/

/-- Digits end where they did. -/
theorem digits_embed (cs : List Char) :
    (embed cs).takeWhile Char.isDigit = cs.takeWhile Char.isDigit ∧
      (embed cs).dropWhile Char.isDigit = embed (cs.dropWhile Char.isDigit) := by
  refine span_embed (by decide) ?_ cs
  rintro c (rfl | rfl | rfl) <;> decide

/-- The whole part of a number is found where it was. -/
theorem whole?_embed (cs : List Char) :
    whole? (embed cs) = (whole? cs).map (Prod.map id embed) := by
  obtain ⟨htake, hdrop⟩ := digits_embed cs
  unfold whole?
  rw [htake, hdrop]
  split <;> rfl

/-- The text begins as it did, or with a backslash where an escaped character stood. -/
theorem embed_cases (cs : List Char) :
    (cs = [] ∧ embed cs = []) ∨
      (∃ c ds, cs = c :: ds ∧ ¬ IsEscaped c ∧ embed cs = c :: embed ds) ∨
      (∃ c ds es, cs = c :: ds ∧ IsEscaped c ∧ embed cs = '\\' :: es) := by
  cases cs with
  | nil => exact .inl ⟨rfl, rfl⟩
  | cons c cs =>
    by_cases hc : IsEscaped c
    · obtain ⟨a, b, hembed, -⟩ := embed_cons_of_isEscaped hc cs
      exact .inr (.inr ⟨c, cs, _, rfl, hc, hembed⟩)
    · exact .inr (.inl ⟨c, cs, rfl, hc, embed_cons_of_not hc cs⟩)

/-- There is no fraction without a point. -/
theorem fraction?_of_ne (hc : c ≠ '.') (cs : List Char) :
    fraction? (c :: cs) = some (none, c :: cs) := by
  rw [fraction?]
  exact fun _ h => hc (List.cons.inj h).1

/-- The fraction of a number is found where it was. -/
theorem fraction?_embed (cs : List Char) :
    fraction? (embed cs) = (fraction? cs).map (Prod.map id embed) := by
  rcases embed_cases cs with ⟨rfl, h⟩ | ⟨c, cs, rfl, -, h⟩ | ⟨c, cs, es, rfl, hc, h⟩
  · rfl
  · by_cases hpoint : c = '.'
    · obtain ⟨htake, hdrop⟩ := digits_embed cs
      subst hpoint
      rw [h]
      simp only [fraction?, htake, hdrop]
      split <;> rfl
    · rw [fraction?_of_ne hpoint, Option.map_some, Prod.map_apply, h, fraction?_of_ne hpoint]
      rfl
  · -- No escaped character is a point, and no escape begins with one.
    have hpoint : c ≠ '.' := by rcases hc with rfl | rfl | rfl <;> decide
    rw [fraction?_of_ne hpoint, Option.map_some, Prod.map_apply, h, fraction?_of_ne (by decide)]
    rfl

/-- A character that is no sign stays. -/
theorem sign_of_ne (hminus : c ≠ '-') (hplus : c ≠ '+') (cs : List Char) :
    Reading.sign (c :: cs) = (false, c :: cs) := by
  rw [Reading.sign]
  · exact fun _ h => hminus (List.cons.inj h).1
  · exact fun _ h => hplus (List.cons.inj h).1

/-- A sign is found where it was. -/
theorem sign_embed (cs : List Char) :
    Reading.sign (embed cs) = Prod.map id embed (Reading.sign cs) := by
  rcases embed_cases cs with ⟨rfl, h⟩ | ⟨c, cs, rfl, -, h⟩ | ⟨c, cs, es, rfl, hc, h⟩
  · rfl
  · by_cases hminus : c = '-'
    · subst hminus
      rw [h]
      rfl
    · by_cases hplus : c = '+'
      · subst hplus
        rw [h]
        rfl
      · rw [sign_of_ne hminus hplus, Prod.map_apply, h, sign_of_ne hminus hplus]
        rfl
  · have hne : c ≠ '-' ∧ c ≠ '+' := by rcases hc with rfl | rfl | rfl <;> decide
    rw [sign_of_ne hne.1 hne.2, Prod.map_apply, h, sign_of_ne (by decide) (by decide)]
    rfl

/-- The exponent of a number is found where it was. -/
theorem exponent?_embed (cs : List Char) :
    exponent? (embed cs) = (exponent? cs).map (Prod.map id embed) := by
  rcases embed_cases cs with ⟨rfl, h⟩ | ⟨c, cs, rfl, -, h⟩ | ⟨c, cs, es, rfl, hc, h⟩
  · rfl
  · obtain ⟨htake, hdrop⟩ := digits_embed (Reading.sign cs).2
    rw [h]
    simp only [exponent?, sign_embed, Prod.map_fst, Prod.map_snd, id_eq, htake, hdrop]
    split_ifs <;> simp [h]
  · have hmark : ¬ (c = 'e' ∨ c = 'E') := by rcases hc with rfl | rfl | rfl <;> decide
    have hback : ¬ ('\\' = 'e' ∨ '\\' = 'E') := by decide
    rw [h, exponent?, if_neg hback, exponent?, if_neg hmark, Option.map_some, Prod.map_apply, h]
    rfl

/-- A number reads as it did. -/
theorem number?_embed {negative : Bool} {n : Number} (h : number? negative cs = some (n, rest)) :
    number? negative (embed cs) = some (n, embed rest) := by
  simp only [number?, Option.bind_eq_bind, Option.bind_eq_some_iff] at h
  obtain ⟨⟨ds, cs₁⟩, hwhole, ⟨fraction, cs₂⟩, hfraction, ⟨exponent, cs₃⟩, hexponent, k, hk, h⟩ := h
  cases h
  simp only [number?, whole?_embed, hwhole, Option.map_some, Option.bind_eq_bind, Option.bind_some,
    Prod.map_apply, fraction?_embed, hfraction, exponent?_embed, hexponent, id]
  rw [hk]
  rfl

/-! ### Values -/

/-- What the reader finds in so many steps, it finds in the text of a script. That text is longer,
so more steps are allowed there. -/
structure Embeds (steps : Nat) : Prop where
  value : ∀ {depth cs x rest}, value? steps depth cs = some (x, rest) →
    ∀ more, steps ≤ more → value? more depth (embed cs) = some (x, embed rest)
  items : ∀ {depth cs xs rest}, items? steps depth cs = some (xs, rest) →
    ∀ more, steps ≤ more → items? more depth (embed cs) = some (xs, embed rest)
  members : ∀ {depth cs ms rest}, members? steps depth cs = some (ms, rest) →
    ∀ more, steps ≤ more → members? more depth (embed cs) = some (ms, embed rest)
  member : ∀ {depth cs m rest}, member? steps depth cs = some (m, rest) →
    ∀ more, steps ≤ more → member? more depth (embed cs) = some (m, embed rest)

variable {steps depth : Nat}

/-- A character that is never written otherwise stood where it stands. -/
theorem cons_of_embed {d : Char} {es : List Char} (hd : d ≠ '\\') (h : embed cs = d :: es) :
    ∃ ds, cs = d :: ds := by
  rcases embed_cases cs with ⟨rfl, heq⟩ | ⟨c, cs, rfl, -, heq⟩ | ⟨c, cs, es', rfl, hc, heq⟩
  · rw [heq] at h
    cases h
  · rw [heq] at h
    exact ⟨cs, congrArg (· :: cs) (List.cons.inj h).1⟩
  · rw [heq] at h
    exact absurd (List.cons.inj h).1.symm hd

/-- No bracket closes in a script that did not close before. -/
theorem skipSpace_embed_ne {d : Char} (hd : d ≠ '\\') (h : ∀ ds, skipSpace cs ≠ d :: ds) :
    ∀ ds, skipSpace (embed cs) ≠ d :: ds := by
  intro ds hds
  rw [skipSpace_embed] at hds
  obtain ⟨es, hes⟩ := cons_of_embed hd hds
  exact h es hes

/-- A character that is not escaped follows the white space where it did. -/
theorem skipSpace_embed_cons {ds : List Char} (hc : ¬ IsEscaped c) (h : skipSpace cs = c :: ds) :
    skipSpace (embed cs) = c :: embed ds := by
  rw [skipSpace_embed, h, embed_cons_of_not hc]

/-- A value is of the same form in a script. -/
theorem Embeds.form (he : Embeds steps) {x : Json} (h : Form steps depth cs x rest) {more : Nat}
    (hle : steps ≤ more) : Form more depth (embed cs) x (embed rest) := by
  cases h with
  | null => exact .null
  | yes => exact .yes
  | no => exact .no
  | string h => exact .string (string?_embed h)
  | negative h => exact .negative (number?_embed h)
  | number h => exact .number (number?_embed h)
  | arrayNil hclose => exact .arrayNil (skipSpace_embed_cons (by decide) hclose)
  | array hopen h =>
    have hitems := he.items h more hle
    rw [← skipSpace_embed] at hitems
    exact .array (skipSpace_embed_ne (by decide) hopen) hitems
  | objectNil hclose => exact .objectNil (skipSpace_embed_cons (by decide) hclose)
  | object hopen h =>
    have hmembers := he.members h more hle
    rw [← skipSpace_embed] at hmembers
    exact .object (skipSpace_embed_ne (by decide) hopen) hmembers

/-- A value that is found in one more step. -/
theorem Embeds.value_succ (he : Embeds steps) {x : Json}
    (h : value? (steps + 1) depth cs = some (x, rest)) {more : Nat} (hle : steps ≤ more) :
    value? (more + 1) depth (embed cs) = some (x, embed rest) := by
  rw [value?_eq_some, skipSpace_embed]
  exact he.form (value?_eq_some.mp h) hle

/-- Items that are found in one more step. -/
theorem Embeds.items_succ (he : Embeds steps) {xs : List Json}
    (h : items? (steps + 1) depth cs = some (xs, rest)) {more : Nat} (hle : steps ≤ more) :
    items? (more + 1) depth (embed cs) = some (xs, embed rest) := by
  obtain ⟨x, after, hx, hrest⟩ := items?_eq_some.mp h
  refine items?_eq_some.mpr ⟨x, embed after, he.value hx more hle, ?_⟩
  rcases hrest with ⟨next, ys, hcomma, hys, rfl⟩ | ⟨hclose, rfl⟩
  · exact .inl ⟨_, ys, skipSpace_embed_cons (by decide) hcomma, he.items hys more hle, rfl⟩
  · exact .inr ⟨skipSpace_embed_cons (by decide) hclose, rfl⟩

/-- Members that are found in one more step. -/
theorem Embeds.members_succ (he : Embeds steps) {ms : Members}
    (h : members? (steps + 1) depth cs = some (ms, rest)) {more : Nat} (hle : steps ≤ more) :
    members? (more + 1) depth (embed cs) = some (ms, embed rest) := by
  obtain ⟨m, after, hm, hrest⟩ := members?_eq_some.mp h
  refine members?_eq_some.mpr ⟨m, embed after, he.member hm more hle, ?_⟩
  rcases hrest with ⟨next, ns, hcomma, hns, rfl⟩ | ⟨hclose, rfl⟩
  · exact .inl ⟨_, ns, skipSpace_embed_cons (by decide) hcomma, he.members hns more hle, rfl⟩
  · exact .inr ⟨skipSpace_embed_cons (by decide) hclose, rfl⟩

/-- A member that is found in one more step. -/
theorem Embeds.member_succ (he : Embeds steps) {m : String × Json}
    (h : member? (steps + 1) depth cs = some (m, rest)) {more : Nat} (hle : steps ≤ more) :
    member? (more + 1) depth (embed cs) = some (m, embed rest) := by
  obtain ⟨name, inner, after, next, x, hquote, hname, hcolon, hx, rfl⟩ := member?_eq_some.mp h
  exact member?_eq_some.mpr ⟨name, _, _, _, x, skipSpace_embed_cons (by decide) hquote,
    string?_embed hname, skipSpace_embed_cons (by decide) hcolon, he.value hx more hle, rfl⟩

/-- What is found in so many steps carries over to one step more. -/
theorem Embeds.succ (he : Embeds steps) : Embeds (steps + 1) where
  value h
    | 0, hle => absurd hle (Nat.not_succ_le_zero steps)
    | _ + 1, hle => he.value_succ h (Nat.le_of_succ_le_succ hle)
  items h
    | 0, hle => absurd hle (Nat.not_succ_le_zero steps)
    | _ + 1, hle => he.items_succ h (Nat.le_of_succ_le_succ hle)
  members h
    | 0, hle => absurd hle (Nat.not_succ_le_zero steps)
    | _ + 1, hle => he.members_succ h (Nat.le_of_succ_le_succ hle)
  member h
    | 0, hle => absurd hle (Nat.not_succ_le_zero steps)
    | _ + 1, hle => he.member_succ h (Nat.le_of_succ_le_succ hle)

/-- Whatever the reader finds, it finds in the text of a script. -/
theorem embeds (steps : Nat) : Embeds steps := by
  induction steps with
  | zero =>
    -- Nothing is found in no steps.
    constructor
    · intro _ _ _ _ h
      rw [value?] at h
      cases h
    · intro _ _ _ _ h
      rw [items?] at h
      cases h
    · intro _ _ _ _ h
      rw [members?] at h
      cases h
    · intro _ _ _ _ h
      rw [member?] at h
      cases h
  | succ steps ih => exact ih.succ

/-- In a script no text gets shorter. -/
theorem length_le_length_embed (cs : List Char) : cs.length ≤ (embed cs).length := by
  induction cs with
  | nil => exact Nat.le_refl _
  | cons c cs ih =>
    by_cases hc : IsEscaped c
    · obtain ⟨a, b, hembed, -⟩ := embed_cons_of_isEscaped hc cs
      simp only [hembed, List.length_cons]
      omega
    · rw [embed_cons_of_not hc]
      exact Nat.succ_le_succ ih

end Grammar

open Grammar

/-- JSON text denotes the same in a script. -/
theorem readRaw?_embed {s : String} {x : Json} (h : readRaw? s = some x) :
    readRaw? (String.ofList (embed s.toList)) = some x := by
  unfold readRaw? at h ⊢
  rw [String.toList_ofList]
  split at h
  · rename_i y rest hread
    -- The text of a script is longer, so it is read in more steps.
    have hsteps : stepsFor s.toList ≤ stepsFor (embed s.toList) := by
      have hlength := length_le_length_embed s.toList
      unfold stepsFor
      omega
    rw [(embeds _).value hread _ hsteps]
    simp only [skipSpace_embed]
    split at h
    · rename_i hend
      rw [List.isEmpty_iff.mp hend]
      exact h
    · cases h
  · cases h

/-- What stands in a script for a value reads as the value. -/
theorem readRaw?_embedded {x : Json} (hx : x.Fits depthLimit) : readRaw? x.embedded = some x :=
  readRaw?_embed (readRaw?_print hx)

end Dashboard.Json
