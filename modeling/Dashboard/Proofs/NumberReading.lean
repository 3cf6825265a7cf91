import Dashboard.Proofs.DoubleRounding
import Dashboard.Proofs.JsonReading
/-!
# The text of a number reads as the number

Integers read back. Doubles are read in double arithmetic, so not all of them read back, but those
do whose digits and power of ten a double holds.

* `numberOf_append`, `numberOf_lt` — digits behind others, and how large their number is.
* `numberOf_append_zeros`, `Decimal.exists_zeros` — zeros at the end of digits.
* `absorb_of_le`, `absorb_le` — the digits that 64 bits hold.
* `Numeral` — a number without its sign as it is written, `Numeral.number?_chars` — what is read of
  it, `Numeral.read?_of_isShort` — where that is the nearest double.
* `number?_cases` — what is read as a number at all.
* `Layout.exists_numeral`, `Binary64.exists_numeral` — the text of a double is such a number, and the
  double is the one nearest to it.
* `Number.IsCanonical` — the integers that 64 bits hold and the doubles, `Number.reads_int` — the
  text of those integers reads as they are.
* `Json.Rereads` — a value whose text reads as the value, `Binary64.reads_of_rereads` — such a double
  also reads back inside of a text, `Binary64.rereads_of_isShort` — the doubles of few digits do.
-/

namespace Dashboard

open Json.Grammar

/-! ### Digits -/

section

variable {ds rest : List Char}

theorem numberOf_eq (ds : List Char) : numberOf ds = Nat.ofDigitChars 10 ds 0 := by
  simp only [numberOf, Nat.ofDigitChars, Nat.mul_comm]

/-- Digits behind others shift them. -/
theorem numberOf_append (ds es : List Char) :
    numberOf (ds ++ es) = numberOf ds * 10 ^ es.length + numberOf es := by
  rw [numberOf_eq, numberOf_eq, numberOf_eq, Nat.ofDigitChars_append,
    Nat.ofDigitChars_eq_ofDigitChars_zero, Nat.mul_comm]

theorem numberOf_zeros (n : Nat) : numberOf (List.replicate n '0') = 0 := by
  rw [numberOf_eq, Nat.ofDigitChars_replicate_zero, Nat.mul_zero]

/-- Zeros at the end multiply. -/
theorem numberOf_append_zeros (ds : List Char) (n : Nat) :
    numberOf (ds ++ List.replicate n '0') = numberOf ds * 10 ^ n := by
  rw [numberOf_append, numberOf_zeros, List.length_replicate, Nat.add_zero]

/-- Zeros in front are no matter. -/
theorem numberOf_zeros_append (n : Nat) (ds : List Char) :
    numberOf (List.replicate n '0' ++ ds) = numberOf ds := by
  rw [numberOf_append, numberOf_zeros, Nat.zero_mul, Nat.zero_add]

/-- A number has no more digits than it is written with. -/
theorem numberOf_lt (hd : ∀ c ∈ ds, c.isDigit = true) : numberOf ds < 10 ^ ds.length := by
  induction ds with
  | nil => exact Nat.one_pos
  | cons c ds ih =>
    obtain ⟨hlow, hhigh⟩ := toNat_of_isDigit (hd c List.mem_cons_self)
    have htail := ih fun b hb => hd b (List.mem_cons_of_mem c hb)
    have hdigit : numberOf [c] ≤ 9 := by
      show 0 * 10 + (c.toNat - 48) ≤ 9
      omega
    -- A digit is worth nine at most at its place.
    have hscaled : numberOf [c] * 10 ^ ds.length ≤ 9 * 10 ^ ds.length :=
      Nat.mul_le_mul_right _ hdigit
    have hsplit : numberOf (c :: ds) = numberOf [c] * 10 ^ ds.length + numberOf ds :=
      numberOf_append [c] ds
    rw [hsplit, List.length_cons, Nat.pow_succ]
    omega

/-- The digits of a whole part: a zero alone, or digits of which the first is not zero. -/
def IsLed (ds : List Char) : Prop := ds = ['0'] ∨ ∃ c cs, ds = c :: cs ∧ c ≠ '0'

/-- A whole part has a digit. -/
theorem IsLed.ne_nil (h : IsLed ds) : ds ≠ [] := by
  rcases h with rfl | ⟨c, cs, rfl, -⟩
  · exact List.cons_ne_nil _ _
  · exact List.cons_ne_nil _ _

/-- The first digit of a number is not zero. -/
theorem exists_lead {n : Nat} (hn : n ≠ 0) : ∃ c cs, Nat.toDigits 10 n = c :: cs ∧ c ≠ '0' := by
  induction n using Nat.strongRecOn with
  | _ n ih =>
    rw [Nat.toDigits_eq_if (by decide)]
    by_cases hsmall : n < 10
    · rw [if_pos hsmall]
      have hall : ∀ k < 10, k ≠ 0 → k.digitChar ≠ '0' := by decide
      exact ⟨_, _, rfl, hall n hsmall hn⟩
    · rw [if_neg hsmall]
      obtain ⟨c, cs, hcs, hc⟩ := ih (n / 10) (by omega) (by omega)
      exact ⟨c, cs ++ [(n % 10).digitChar], by rw [hcs, List.cons_append], hc⟩

/-- The digits of a number make a whole part. -/
theorem isLed_toDigits (n : Nat) : IsLed (Nat.toDigits 10 n) := by
  by_cases hn : n = 0
  · subst hn
    exact .inl (Nat.toDigits_zero 10)
  · exact .inr (exists_lead hn)

/-- The digits of a number are digits. -/
theorem isDigit_toDigits (n : Nat) : ∀ c ∈ Nat.toDigits 10 n, c.isDigit = true := fun _ hc =>
  Nat.isDigit_of_mem_toDigits (by decide) (by decide) hc

/-- Zeros are digits. -/
theorem isDigit_zeros (n : Nat) : ∀ c ∈ List.replicate n '0', c.isDigit = true := by
  intro c hc
  rw [List.eq_of_mem_replicate hc]
  rfl

/-- Digits end where something else begins. -/
theorem takeWhile_digits (hd : ∀ c ∈ ds, c.isDigit = true)
    (hrest : ∀ c ∈ rest.head?, c.isDigit = false) :
    (ds ++ rest).takeWhile Char.isDigit = ds ∧ (ds ++ rest).dropWhile Char.isDigit = rest := by
  rw [List.takeWhile_append_of_pos hd, List.dropWhile_append_of_pos hd]
  cases rest with
  | nil => exact ⟨List.append_nil ds, rfl⟩
  | cons c rest =>
    have hc : ¬ c.isDigit = true := Bool.eq_false_iff.mp (hrest c rfl)
    rw [List.takeWhile_cons_of_neg hc, List.dropWhile_cons_of_neg hc]
    exact ⟨List.append_nil ds, rfl⟩

/-- A whole part is read up to the first character that is no digit. -/
theorem whole?_append (hd : ∀ c ∈ ds, c.isDigit = true) (hled : IsLed ds)
    (hrest : ∀ c ∈ rest.head?, c.isDigit = false) : whole? (ds ++ rest) = some (ds, rest) := by
  obtain ⟨htake, hdrop⟩ := takeWhile_digits hd hrest
  rw [whole?, htake, hdrop]
  rcases hled with rfl | ⟨c, cs, rfl, hc⟩
  · rfl
  · split
    · rename_i heq
      cases heq
    · rename_i heq
      exact absurd (List.cons.inj heq).1 hc
    · rfl

/-- Digits for which there is room all go into the number. -/
theorem absorb_of_le {n : Nat} (h : n * 10 ^ ds.length + numberOf ds ≤ Count.max) :
    absorb n ds = (n * 10 ^ ds.length + numberOf ds, []) := by
  induction ds generalizing n with
  | nil => exact congrArg (·, []) (by simp [numberOf])
  | cons c ds ih =>
    have hsplit : numberOf (c :: ds) = numberOf [c] * 10 ^ ds.length + numberOf ds :=
      numberOf_append [c] ds
    have hdigit : numberOf [c] = c.toNat - '0'.toNat := Nat.zero_add _
    have hshift : n * 10 ^ (c :: ds).length + numberOf (c :: ds) =
        (n * 10 + (c.toNat - '0'.toNat)) * 10 ^ ds.length + numberOf ds := by
      rw [hsplit, hdigit, List.length_cons, Nat.pow_succ', ← Nat.mul_assoc, Nat.add_mul,
        Nat.add_assoc]
    -- The sum is large enough to hold every number on the way to it.
    have hroom : n * 10 + (c.toNat - '0'.toNat) ≤ Count.max :=
      (Nat.le_mul_of_pos_right _ (Nat.pow_pos (by decide))).trans
        ((Nat.le_add_right _ _).trans (hshift ▸ h))
    rw [hshift] at h ⊢
    rw [absorb, if_neg (Nat.not_lt.mpr hroom), ih h]

/-- A literal with a fraction or an exponent whose digits all find room. -/
theorem literal?_eq_double? {negative : Bool} {fraction : Option (List Char)}
    {exponent : Option Int} {n digits : Nat} (h : fraction ≠ none ∨ exponent ≠ none)
    (hwhole : absorb 0 ds = (n, [])) (hboth : absorb n (fraction.getD []) = (digits, [])) :
    literal? negative ds fraction exponent =
      double? negative digits (exponent.getD 0 - (fraction.getD []).length) := by
  simp only [literal?, hwhole, hboth]
  cases fraction with
  | some places => simp
  | none =>
    cases exponent with
    | some e => simp
    | none => simp at h

/-- What digits go into stays within 64 bits. -/
theorem absorb_le {n : Nat} (h : n ≤ Count.max) (ds : List Char) : (absorb n ds).1 ≤ Count.max := by
  induction ds generalizing n with
  | nil => exact h
  | cons c ds ih =>
    rw [absorb]
    split
    · exact h
    · rename_i hroom
      exact ih (Nat.le_of_not_lt hroom)

end

/-! ### Numbers as they are written -/

/-- A number without its sign as it is written: a whole part, the digits behind a point, if any, and
    an exponent. -/
structure Numeral where
  whole : List Char
  fraction : List Char
  exponent : Option Int
  isDigit_whole : ∀ c ∈ whole, c.isDigit = true
  isDigit_fraction : ∀ c ∈ fraction, c.isDigit = true
  isLed_whole : IsLed whole

namespace Numeral

variable (n : Numeral) {rest : List Char}

/-- The point stands only before digits. -/
def fractionChars : List Char := if n.fraction = [] then [] else '.' :: n.fraction

def exponentChars : List Char :=
  match n.exponent with
  | some e => 'e' :: (Layout.exponentText e).toList
  | none => []

def chars : List Char := n.whole ++ (n.fractionChars ++ n.exponentChars)

/-- Whether there is a fraction or an exponent, by which a number is no integer. -/
def IsDecimal : Prop := n.fraction ≠ [] ∨ n.exponent ≠ none

/-- The digits as one number. -/
def digits : Nat := numberOf (n.whole ++ n.fraction)

/-- The exponent of ten that goes with the digits. -/
def places : Int := n.exponent.getD 0 - n.fraction.length

/-- The magnitude nearest to the value. -/
def nearest? : Option Magnitude := Magnitude.ofDecimal? n.digits n.places

/-- The fraction as the reader finds it. -/
def fractionRead : Option (List Char) := if n.fraction = [] then none else some n.fraction

/-- The number that is read. -/
def read? (negative : Bool) : Option Number :=
  literal? negative n.whole n.fractionRead n.exponent

/-- Whether doubles hold the digits and the power of ten. -/
def IsShort : Prop := n.digits < Binary64.significandBound ∧ -22 ≤ n.places ∧ n.places ≤ 22

/-- An exponent is written with its sign, also where it is positive. -/
theorem toList_exponentText (e : Int) : (Layout.exponentText e).toList =
    (if e < 0 then '-' else '+') :: Nat.toDigits 10 e.natAbs := by
  rw [Layout.exponentText, String.toList_append, Nat.toString_eq_ofList_toDigits,
    String.toList_ofList]
  split
  · rfl
  · rfl

/-- The digits of an exponent are read behind its sign. -/
theorem exponent?_sign (hrest : Ends rest) (k : Nat) {sign : Char} {negative : Bool}
    (hsign : ∀ cs, Reading.sign (sign :: cs) = (negative, cs)) :
    exponent? ('e' :: sign :: (Nat.toDigits 10 k ++ rest)) =
      some (some (if negative then -(k : Int) else k), rest) := by
  have hdigit : ∀ c ∈ rest.head?, c.isDigit = false := fun c hc => (hrest c hc).1
  obtain ⟨htake, hdrop⟩ := takeWhile_digits (isDigit_toDigits k) hdigit
  have hne : (Nat.toDigits 10 k).isEmpty = false :=
    List.isEmpty_eq_false_iff.mpr Nat.toDigits_ne_nil
  rw [exponent?, if_pos (.inl rfl), hsign]
  show (if ((Nat.toDigits 10 k ++ rest).takeWhile Char.isDigit).isEmpty then none else _) = _
  rw [htake, hdrop, hne, numberOf_toDigits]
  rfl

/-- An exponent is read. -/
theorem exponent?_exponentChars (hrest : Ends rest) :
    exponent? (n.exponentChars ++ rest) = some (n.exponent, rest) := by
  unfold exponentChars
  cases n.exponent with
  | none =>
    cases rest with
    | nil => rfl
    | cons c rest =>
      -- What follows cannot be taken for an exponent.
      obtain ⟨-, -, hlower, hupper⟩ := hrest c rfl
      have hmark : ¬ (c = 'e' ∨ c = 'E') := not_or.mpr ⟨hlower, hupper⟩
      show exponent? (c :: rest) = _
      rw [exponent?, if_neg hmark]
  | some e =>
    show exponent? ('e' :: (Layout.exponentText e).toList ++ rest) = _
    rw [toList_exponentText, List.cons_append, List.cons_append]
    by_cases hneg : e < 0
    · rw [if_pos hneg, exponent?_sign hrest e.natAbs fun _ => rfl]
      show some (some (-(e.natAbs : Int)), rest) = _
      rw [show -(e.natAbs : Int) = e by omega]
    · rw [if_neg hneg, exponent?_sign hrest e.natAbs fun _ => rfl]
      show some (some (e.natAbs : Int), rest) = _
      rw [show (e.natAbs : Int) = e by omega]

/-- An exponent, or what follows it, begins with no digit and no point. -/
theorem head?_exponentChars (hrest : Ends rest) :
    ∀ c ∈ (n.exponentChars ++ rest).head?, c.isDigit = false ∧ c ≠ '.' := by
  unfold exponentChars
  intro c hc
  cases hexponent : n.exponent with
  | none =>
    rw [hexponent] at hc
    exact ⟨(hrest c hc).1, (hrest c hc).2.1⟩
  | some e =>
    rw [hexponent] at hc
    obtain rfl : 'e' = c := Option.some.inj hc
    decide

/-- A fraction is read. -/
theorem fraction?_fractionChars (hrest : Ends rest) :
    fraction? (n.fractionChars ++ (n.exponentChars ++ rest)) =
      some (n.fractionRead, n.exponentChars ++ rest) := by
  have hhead := n.head?_exponentChars hrest
  unfold fractionChars fractionRead
  by_cases hnil : n.fraction = []
  · -- Without a fraction no point stands there, for an exponent begins with none.
    rw [if_pos hnil, if_pos hnil, List.nil_append]
    unfold fraction?
    split
    · rename_i heq
      rw [heq] at hhead
      exact absurd rfl (hhead '.' rfl).2
    · rfl
  · obtain ⟨htake, hdrop⟩ := takeWhile_digits n.isDigit_fraction fun c hc => (hhead c hc).1
    rw [if_neg hnil, if_neg hnil, List.cons_append, fraction?, htake, hdrop,
      List.isEmpty_eq_false_iff.mpr hnil]
    rfl

/-- A fraction, an exponent or what follows them begins with no digit. -/
theorem head?_fractionChars (hrest : Ends rest) :
    ∀ c ∈ (n.fractionChars ++ (n.exponentChars ++ rest)).head?, c.isDigit = false := by
  unfold fractionChars
  intro c hc
  by_cases hnil : n.fraction = []
  · rw [if_pos hnil, List.nil_append] at hc
    exact (n.head?_exponentChars hrest c hc).1
  · rw [if_neg hnil] at hc
    obtain rfl : '.' = c := Option.some.inj hc
    decide

/-- The whole part is read. -/
theorem whole?_chars (hrest : Ends rest) :
    whole? (n.chars ++ rest) = some (n.whole, n.fractionChars ++ (n.exponentChars ++ rest)) := by
  rw [chars, List.append_assoc, List.append_assoc]
  exact whole?_append n.isDigit_whole n.isLed_whole (n.head?_fractionChars hrest)

/-- A number is read to its end. -/
theorem number?_chars (negative : Bool) (hrest : Ends rest) :
    number? negative (n.chars ++ rest) = (n.read? negative).map fun k => (k, rest) := by
  rw [number?, n.whole?_chars hrest]
  show (fraction? _).bind _ = _
  rw [n.fraction?_fractionChars hrest]
  show (exponent? _).bind _ = _
  rw [n.exponent?_exponentChars hrest]
  show ((n.read? negative).bind fun k => some (k, rest)) = _
  cases n.read? negative with
  | none => rfl
  | some k => rfl

/-- An integer that 64 bits hold without its sign. -/
theorem read?_integer (negative : Bool) (hn : ¬ n.IsDecimal) (hd : n.digits ≤ Count.max) :
    n.read? negative = integer? negative n.digits := by
  obtain ⟨hfraction, hexponent⟩ : n.fraction = [] ∧ n.exponent = none := by
    simpa [IsDecimal] using hn
  have hdigits : n.digits = 0 * 10 ^ n.whole.length + numberOf n.whole := by
    rw [digits, hfraction, List.append_nil, Nat.zero_mul, Nat.zero_add]
  rw [hdigits] at hd ⊢
  rw [read?, fractionRead, if_pos hfraction, hexponent, literal?, absorb_of_le hd]

/-- A number with a fraction or an exponent whose digits 64 bits hold. -/
theorem read?_decimal (negative : Bool) (hn : n.IsDecimal) (hd : n.digits ≤ Count.max) :
    n.read? negative = double? negative n.digits n.places := by
  have hsplit : n.digits = numberOf n.whole * 10 ^ n.fraction.length + numberOf n.fraction :=
    numberOf_append n.whole n.fraction
  have hwhole : 0 * 10 ^ n.whole.length + numberOf n.whole ≤ Count.max := by
    have hle := Nat.le_mul_of_pos_right (numberOf n.whole)
      (Nat.pow_pos (n := n.fraction.length) (show 0 < 10 by decide))
    omega
  have hplaces : n.fractionRead.getD [] = n.fraction := by
    unfold fractionRead
    split
    · rename_i hnil
      exact hnil.symm
    · rfl
  have hboth : absorb (numberOf n.whole) n.fraction = (n.digits, []) := by
    rw [hsplit] at hd ⊢
    exact absorb_of_le hd
  have hread := absorb_of_le hwhole
  rw [Nat.zero_mul, Nat.zero_add] at hread
  -- Where there is no fraction there is an exponent, so the number is no integer.
  have hmark : n.fractionRead ≠ none ∨ n.exponent ≠ none := by
    refine hn.imp_left fun hfraction => ?_
    rw [fractionRead, if_neg hfraction]
    exact nofun
  rw [← hplaces] at hboth
  rw [read?, literal?_eq_double? hmark hread hboth, hplaces, places]

/-- Where doubles hold the digits and the power of ten, the nearest double is read. -/
theorem read?_of_isShort (negative : Bool) (hn : n.IsDecimal) (hshort : n.IsShort) :
    n.read? negative = n.nearest?.map fun m => .float ⟨negative, m⟩ := by
  obtain ⟨hdigits, hlow, hhigh⟩ := hshort
  have hbound : Binary64.significandBound ≤ Count.max := by decide
  rw [n.read?_decimal negative hn (hdigits.le.trans hbound), double?, nearest?]
  by_cases hzero : n.digits = 0
  · rw [hzero, Magnitude.ofDecimal?, if_pos rfl]
    have hnone : Magnitude.ofNat? 0 = some Magnitude.zero := by decide +kernel
    have hstays : Magnitude.zero.significand = 0 := rfl
    rw [hnone, Option.bind_some, Magnitude.shift?, if_pos hstays]
  · obtain ⟨m, hm, hunits⟩ := Magnitude.exists_ofNat? hzero hdigits
    rw [hm, Option.bind_some, Magnitude.shift?_exact hzero hunits hlow hhigh]

/-- With more digits a literal may be refused, though a double is next to it. -/
example : number? false "1.7976931348623158e308".toList = none := by decide +kernel

/-- A number is written in one way. -/
theorem chars_injective {m : Numeral} (h : n.chars = m.chars) : n = m := by
  -- The reader finds the three parts one after another, so they are the same.
  have hwhole := n.whole?_chars ends_nil
  rw [h, m.whole?_chars ends_nil] at hwhole
  obtain ⟨hw, hafter⟩ := Prod.mk.inj (Option.some.inj hwhole)
  have hfraction := n.fraction?_fractionChars ends_nil
  rw [← hafter, m.fraction?_fractionChars ends_nil] at hfraction
  obtain ⟨hf, hafter⟩ := Prod.mk.inj (Option.some.inj hfraction)
  have hexponent := n.exponent?_exponentChars ends_nil
  rw [← hafter, m.exponent?_exponentChars ends_nil] at hexponent
  obtain ⟨he, -⟩ := Prod.mk.inj (Option.some.inj hexponent)
  have hplaces : m.fraction = n.fraction := by
    unfold fractionRead at hf
    split at hf <;> split at hf
    · rename_i hm hn
      rw [hm, hn]
    · cases hf
    · cases hf
    · exact Option.some.inj hf
  cases n
  cases m
  simp_all

/-- The first character is a digit. -/
theorem exists_chars : ∃ c cs, n.chars = c :: cs ∧ c.isDigit = true := by
  obtain ⟨c, cs, hcs⟩ := List.exists_cons_of_ne_nil n.isLed_whole.ne_nil
  refine ⟨c, cs ++ (n.fractionChars ++ n.exponentChars), ?_, ?_⟩
  · rw [chars, hcs, List.cons_append]
  · exact n.isDigit_whole c (hcs ▸ List.mem_cons_self)

/-- Digits are plain. -/
theorem plain_of_isDigit {ds : List Char} (hd : ∀ c ∈ ds, c.isDigit = true) : Plain ds := by
  intro c hc
  have hrange := toNat_of_isDigit (hd c hc)
  omega

/-- The text of a numeral is plain. -/
theorem plain_chars : Plain n.chars := by
  have hwhole := plain_of_isDigit n.isDigit_whole
  have hfraction : Plain n.fractionChars := by
    unfold fractionChars
    split
    · exact List.forall_mem_nil _
    · exact plain_cons.mpr ⟨by decide, plain_of_isDigit n.isDigit_fraction⟩
  -- An exponent has a sign and digits behind its letter.
  have hexponent : Plain n.exponentChars := by
    unfold exponentChars
    split
    · rename_i e _
      have hdigits := plain_of_isDigit (isDigit_toDigits e.natAbs)
      rw [toList_exponentText]
      split
      · exact plain_cons.mpr ⟨by decide, plain_cons.mpr ⟨by decide, hdigits⟩⟩
      · exact plain_cons.mpr ⟨by decide, plain_cons.mpr ⟨by decide, hdigits⟩⟩
    · exact List.forall_mem_nil _
  exact plain_append.mpr ⟨hwhole, plain_append.mpr ⟨hfraction, hexponent⟩⟩

end Numeral

/-- What is read as a number is an integer, or a double reckoned from digits. -/
theorem Json.Grammar.number?_cases {negative : Bool} {cs rest : List Char} {k : Number}
    (h : number? negative cs = some (k, rest)) :
    (∃ n ≤ Count.max, integer? negative n = some k) ∨
      ∃ digits exponent, double? negative digits exponent = some k := by
  simp only [number?, Option.bind_eq_bind, Option.bind_eq_some_iff] at h
  obtain ⟨⟨whole, _⟩, -, ⟨fraction, _⟩, -, ⟨exponent, _⟩, -, _, hliteral, heq⟩ := h
  cases heq
  unfold literal? at hliteral
  dsimp only at hliteral
  split at hliteral
  · exact .inl ⟨_, absorb_le (Nat.zero_le _) whole, hliteral⟩
  · exact .inr ⟨_, _, hliteral⟩

/-! ### The text of a double -/

/-- The sign in front of a number. -/
def Number.signChars (negative : Bool) : List Char := if negative then ['-'] else []

/-- The digits that are written, with zeros behind them, are the digits of a decimal. -/
theorem Decimal.exists_zeros (d : Decimal) :
    ∃ zeros, decimalDigits d.digits = d.trimmedDigits ++ List.replicate zeros '0' := by
  have hzeros : ∀ c ∈ (decimalDigits d.digits).reverse.takeWhile (· == '0'), c = '0' := by
    intro c hc
    exact eq_of_beq (List.all_eq_true.mp List.all_takeWhile c hc)
  refine ⟨((decimalDigits d.digits).reverse.takeWhile (· == '0')).length, ?_⟩
  calc
    decimalDigits d.digits
      = ((decimalDigits d.digits).reverse.takeWhile (· == '0') ++
          (decimalDigits d.digits).reverse.dropWhile (· == '0')).reverse := by
        rw [List.takeWhile_append_dropWhile, List.reverse_reverse]
    _ = d.trimmedDigits ++ List.replicate _ '0' := by
        rw [List.reverse_append, List.eq_replicate_of_mem hzeros, List.reverse_replicate,
          List.length_replicate]
        rfl

namespace Decimal

variable {d : Decimal}

/-- The digits that are written are digits. -/
theorem isDigit_trimmedDigits (d : Decimal) : ∀ c ∈ d.trimmedDigits, c.isDigit = true := by
  intro c hc
  obtain ⟨zeros, hzeros⟩ := d.exists_zeros
  have hmem : c ∈ decimalDigits d.digits := hzeros ▸ List.mem_append_left _ hc
  exact isDigit_toDigits d.digits c hmem

/-- The first digit that is written is not zero. -/
theorem exists_lead_trimmedDigits (hd : d.digits ≠ 0) :
    ∃ c cs, d.trimmedDigits = c :: cs ∧ c ≠ '0' := by
  obtain ⟨zeros, hzeros⟩ := d.exists_zeros
  obtain ⟨c, cs, hcs, hc⟩ := exists_lead hd
  rw [show decimalDigits d.digits = c :: cs from hcs] at hzeros
  cases htrimmed : d.trimmedDigits with
  | nil =>
    rw [htrimmed, List.nil_append] at hzeros
    have hmem : c ∈ List.replicate zeros '0' := hzeros ▸ List.mem_cons_self
    exact absurd (List.eq_of_mem_replicate hmem) hc
  | cons b bs =>
    rw [htrimmed, List.cons_append] at hzeros
    obtain ⟨rfl, -⟩ := List.cons.inj hzeros
    exact ⟨c, bs, rfl, hc⟩

/-- The zeros that are not written are made up for by the exponent. -/
theorem exists_digits_eq (d : Decimal) :
    ∃ zeros, d.digits = numberOf d.trimmedDigits * 10 ^ zeros ∧
      (decimalDigits d.digits).length = d.trimmedDigits.length + zeros := by
  obtain ⟨zeros, hzeros⟩ := d.exists_zeros
  refine ⟨zeros, ?_, ?_⟩
  · rw [← numberOf_append_zeros, ← hzeros]
    exact (numberOf_toDigits d.digits).symm
  · rw [hzeros, List.length_append, List.length_replicate]

/-- The digits that are written are not all zero. -/
theorem numberOf_trimmedDigits_ne (hd : d.digits ≠ 0) : numberOf d.trimmedDigits ≠ 0 := by
  obtain ⟨zeros, hvalue, -⟩ := d.exists_digits_eq
  intro hzero
  rw [hzero, Nat.zero_mul] at hvalue
  exact hd hvalue

/-- The digits that are written read as the decimal if the first of them stands at its place. -/
theorem ofDecimal?_trimmedDigits (hd : d.digits ≠ 0) :
    Magnitude.ofDecimal? (numberOf d.trimmedDigits)
        (d.leadingExponent + 1 - d.trimmedDigits.length) =
      Magnitude.ofDecimal? d.digits d.exponent := by
  obtain ⟨zeros, hvalue, hlength⟩ := d.exists_digits_eq
  have hexponent : d.leadingExponent + 1 - d.trimmedDigits.length = d.exponent + zeros := by
    rw [leadingExponent, hlength]
    omega
  rw [hexponent, ← Magnitude.ofDecimal?_shift (numberOf_trimmedDigits_ne hd), ← hvalue]

end Decimal

namespace Layout

variable {ds : List Char} (hd : ∀ c ∈ ds, c.isDigit = true)
  (hlead : ∃ c cs, ds = c :: cs ∧ c ≠ '0') {e : Int}

include hd hlead

/-- Below one, zeros stand between the point and the digits. -/
theorem exists_positional_of_neg (hneg : e < 0) :
    ∃ n : Numeral, (positional ds e).toList = n.chars ∧ n.IsDecimal ∧
      n.nearest? = Magnitude.ofDecimal? (numberOf ds) (e + 1 - ds.length) := by
  obtain ⟨c, cs, rfl, -⟩ := hlead
  have hdigits : ∀ b ∈ List.replicate ((-e).toNat - 1) '0' ++ c :: cs, b.isDigit = true :=
    List.forall_mem_append.mpr ⟨isDigit_zeros _, hd⟩
  have hne : List.replicate ((-e).toNat - 1) '0' ++ c :: cs ≠ [] := by simp
  refine ⟨⟨['0'], _, none, isDigit_zeros 1, hdigits, .inl rfl⟩, ?_, .inl hne, ?_⟩
  · rw [positional, if_pos hneg, Numeral.chars, Numeral.fractionChars, if_neg hne,
      String.toList_append, String.toList_ofList]
    simp [Numeral.exponentChars]
  · -- Zeros in front are no matter to the value, and the places behind the point are counted.
    have hvalue : numberOf (['0'] ++ (List.replicate ((-e).toNat - 1) '0' ++ c :: cs)) =
        numberOf (c :: cs) := by
      rw [show ['0'] = List.replicate 1 '0' from rfl, numberOf_zeros_append, numberOf_zeros_append]
    have hexponent : (0 : Int) - (List.replicate ((-e).toNat - 1) '0' ++ c :: cs).length =
        e + 1 - (c :: cs).length := by
      rw [List.length_append, List.length_replicate]
      omega
    show Magnitude.ofDecimal? (numberOf (['0'] ++ _)) (0 - _) = _
    rw [hvalue, hexponent]

/-- Digits that all stand before the point are filled up with zeros, and one zero stands behind
    it. -/
theorem exists_positional_of_length_le (hne : numberOf ds ≠ 0) (hneg : ¬ e < 0)
    (hlength : ds.length ≤ e.toNat + 1) :
    ∃ n : Numeral, (positional ds e).toList = n.chars ∧ n.IsDecimal ∧
      n.nearest? = Magnitude.ofDecimal? (numberOf ds) (e + 1 - ds.length) := by
  have hwhole : ∀ b ∈ ds ++ List.replicate (e.toNat + 1 - ds.length) '0', b.isDigit = true :=
    List.forall_mem_append.mpr ⟨hd, isDigit_zeros _⟩
  have hled : IsLed (ds ++ List.replicate (e.toNat + 1 - ds.length) '0') := by
    obtain ⟨c, cs, rfl, hc⟩ := hlead
    exact .inr ⟨c, _, rfl, hc⟩
  refine ⟨⟨_, ['0'], none, hwhole, isDigit_zeros 1, hled⟩, ?_, .inl (List.cons_ne_nil _ _), ?_⟩
  · rw [positional, if_neg hneg]
    simp [Numeral.chars, Numeral.fractionChars, Numeral.exponentChars,
      List.take_of_length_le hlength, List.drop_of_length_le hlength]
  · -- The zeros of the whole part and the one behind the point go to the exponent.
    have hvalue : numberOf (ds ++ List.replicate (e.toNat + 1 - ds.length) '0' ++ ['0']) =
        numberOf ds * 10 ^ (e.toNat + 1 - ds.length + 1) := by
      rw [List.append_assoc, ← List.replicate_succ', numberOf_append_zeros]
    have hexponent : (0 : Int) - 1 + (e.toNat + 1 - ds.length + 1 : Nat) = e + 1 - ds.length := by
      omega
    show Magnitude.ofDecimal? (numberOf (_ ++ _)) (0 - 1) = _
    rw [hvalue, Magnitude.ofDecimal?_shift hne, hexponent]

/-- Digits may stand on either side of the point. -/
theorem exists_positional_of_lt_length (hneg : ¬ e < 0) (hlength : e.toNat + 1 < ds.length) :
    ∃ n : Numeral, (positional ds e).toList = n.chars ∧ n.IsDecimal ∧
      n.nearest? = Magnitude.ofDecimal? (numberOf ds) (e + 1 - ds.length) := by
  have hwhole : ∀ b ∈ ds.take (e.toNat + 1), b.isDigit = true := fun b hb =>
    hd b (List.mem_of_mem_take hb)
  have hfraction : ∀ b ∈ ds.drop (e.toNat + 1), b.isDigit = true := fun b hb =>
    hd b (List.mem_of_mem_drop hb)
  have hled : IsLed (ds.take (e.toNat + 1)) := by
    obtain ⟨c, cs, rfl, hc⟩ := hlead
    rw [List.take_succ_cons]
    exact .inr ⟨c, _, rfl, hc⟩
  have hafter : ds.drop (e.toNat + 1) ≠ [] := by
    rw [ne_eq, List.drop_eq_nil_iff]
    omega
  -- The point stands among the digits.
  refine ⟨⟨_, ds.drop (e.toNat + 1), none, hwhole, hfraction, hled⟩, ?_, .inl hafter, ?_⟩
  · have hzeros : e.toNat + 1 - ds.length = 0 := Nat.sub_eq_zero_of_le (Nat.le_of_lt hlength)
    rw [positional, if_neg hneg]
    simp [Numeral.chars, Numeral.fractionChars, Numeral.exponentChars, hafter, hzeros]
  · have hvalue : numberOf (ds.take (e.toNat + 1) ++ ds.drop (e.toNat + 1)) = numberOf ds := by
      rw [List.take_append_drop]
    have hexponent : (0 : Int) - (ds.drop (e.toNat + 1)).length = e + 1 - ds.length := by
      rw [List.length_drop]
      omega
    show Magnitude.ofDecimal? (numberOf (_ ++ _)) (0 - (ds.drop (e.toNat + 1)).length) = _
    rw [hvalue, hexponent]

/-- Digits in positional notation read as the number with the first of them at its place. -/
theorem exists_positional (hne : numberOf ds ≠ 0) (e : Int) :
    ∃ n : Numeral, (positional ds e).toList = n.chars ∧ n.IsDecimal ∧
      n.nearest? = Magnitude.ofDecimal? (numberOf ds) (e + 1 - ds.length) := by
  by_cases hneg : e < 0
  · exact exists_positional_of_neg hd hlead hneg
  rcases Nat.lt_or_ge (e.toNat + 1) ds.length with hlength | hlength
  · exact exists_positional_of_lt_length hd hlead hneg hlength
  · exact exists_positional_of_length_le hd hlead hne hneg hlength

/-- A number in scientific notation. -/
theorem exists_scientific (e : Int) :
    ∃ n : Numeral, (scientific ds e).toList = n.chars ∧ n.IsDecimal ∧
      n.nearest? = Magnitude.ofDecimal? (numberOf ds) (e + 1 - ds.length) := by
  obtain ⟨c, cs, rfl, hc⟩ := hlead
  obtain ⟨hhead, htail⟩ := List.forall_mem_cons.mp hd
  have hwhole : ∀ b ∈ [c], b.isDigit = true := by
    intro b hb
    rwa [List.mem_singleton.mp hb]
  refine ⟨⟨[c], cs, some e, hwhole, htail, .inr ⟨c, [], rfl, hc⟩⟩, ?_, .inr nofun, ?_⟩
  · rw [scientific]
    cases cs with
    | nil => simp [Numeral.chars, Numeral.fractionChars, Numeral.exponentChars]
    | cons b bs => simp [Numeral.chars, Numeral.fractionChars, Numeral.exponentChars]
  · have hexponent : e - cs.length = e + 1 - (c :: cs).length := by
      rw [List.length_cons]
      omega
    show Magnitude.ofDecimal? (numberOf (c :: cs)) (e - cs.length) = _
    rw [hexponent]

omit hd hlead in
/-- The text of a decimal reads as the decimal. -/
theorem exists_numeral (l : Layout) {d : Decimal} (hne : d.digits ≠ 0) :
    ∃ n : Numeral, (l.text d).toList = n.chars ∧ n.IsDecimal ∧
      n.nearest? = Magnitude.ofDecimal? d.digits d.exponent := by
  have hdigits := d.isDigit_trimmedDigits
  have hlead := Decimal.exists_lead_trimmedDigits hne
  have hvalue := Decimal.numberOf_trimmedDigits_ne hne
  rw [← Decimal.ofDecimal?_trimmedDigits hne, text]
  split
  · exact exists_positional hdigits hlead hvalue d.leadingExponent
  · exact exists_scientific hdigits hlead d.leadingExponent

end Layout

/-- The text of a double reads as the double. -/
theorem Binary64.exists_numeral {x : Binary64} (hx : x.magnitude.IsCanonical) :
    ∃ n : Numeral, x.text.toList = Number.signChars x.negative ++ n.chars ∧ n.IsDecimal ∧
      n.nearest? = some x.magnitude := by
  have hsign (s : String) : ((if x.negative then "-" else "") ++ s).toList =
      Number.signChars x.negative ++ s.toList := by
    rw [String.toList_append]
    cases x.negative with
    | true => rfl
    | false => rfl
  rw [text, hsign]
  -- Zero has no digits to lay out and is written by itself.
  by_cases hzero : x.magnitude.significand = 0
  · have hmagnitude : x.magnitude = Magnitude.zero := by
      have hscale : x.magnitude.scale = 0 := by
        refine hx.normal.resolve_right fun h => ?_
        rw [hzero] at h
        exact absurd h (by decide)
      show (⟨x.magnitude.significand, x.magnitude.scale⟩ : Magnitude) = ⟨0, 0⟩
      rw [hzero, hscale]
    refine ⟨⟨['0'], ['0'], none, isDigit_zeros 1, isDigit_zeros 1, .inl rfl⟩, ?_,
      .inl (List.cons_ne_nil _ _), ?_⟩
    · rw [if_pos hzero]
      rfl
    · rw [hmagnitude]
      rfl
  · obtain ⟨n, hchars, hdecimal, hread⟩ :=
      layout.exists_numeral (Magnitude.digits_shortest hx hzero)
    refine ⟨n, ?_, hdecimal, ?_⟩
    · rw [if_neg hzero, hchars]
    · rw [hread, Magnitude.ofDecimal?_shortest hx hzero]

/-! ### All numbers -/

namespace Number

/-- The integers that 64 bits hold, with a sign or without, and the doubles. -/
def IsCanonical : Number → Prop
  | int n => -Count.signedBound ≤ n ∧ n ≤ Count.max
  | float x => x.magnitude.IsCanonical

/-- No digit is white space. -/
theorem isSpace_of_isDigit {c : Char} (hc : c.isDigit = true) : isSpace c = false := by
  refine Bool.eq_false_iff.mpr fun hspace => ?_
  simp only [isSpace, Bool.or_eq_true, beq_iff_eq] at hspace
  rcases hspace with ((rfl | rfl) | rfl) | rfl
  all_goals exact absurd hc (by decide)

/-- Where a digit stands, a number is read. -/
theorem value?_digit (steps depth : Nat) {c : Char} (hc : c.isDigit = true) (cs : List Char) :
    value? (steps + 1) depth (c :: cs) =
      (number? false (c :: cs)).map fun (n, rest) => (.number n, rest) := by
  rw [value?, skipSpace_of_not (isSpace_of_isDigit hc)]
  -- Each of the other values begins with a character that is no digit.
  split
  case h_8 => rfl
  all_goals
    rename_i heq
    obtain ⟨rfl, -⟩ := List.cons.inj heq
    exact absurd hc (by decide)

/-- After a minus sign the reader goes on with a number. -/
theorem value?_minus (steps depth : Nat) (cs : List Char) :
    value? (steps + 1) depth ('-' :: cs) =
      (number? true cs).map fun (n, rest) => (.number n, rest) := by
  rw [value?, skipSpace_of_not (by decide)]
  rfl

/-- Where a number stands behind its sign, it is read. -/
theorem value?_numeral (steps depth : Nat) (negative : Bool) (n : Numeral) {rest : List Char}
    (hrest : Ends rest) : value? (steps + 1) depth (signChars negative ++ n.chars ++ rest) =
      (n.read? negative).map fun k => (.number k, rest) := by
  have hread := n.number?_chars negative hrest
  -- A sign is told by the first character, and the digits by the others.
  cases negative with
  | true =>
    show value? (steps + 1) depth ('-' :: (n.chars ++ rest)) = _
    rw [value?_minus, hread, Option.map_map]
    rfl
  | false =>
    obtain ⟨c, cs, hchars, hc⟩ := n.exists_chars
    show value? (steps + 1) depth (n.chars ++ rest) = _
    rw [hchars, List.cons_append] at hread ⊢
    rw [value?_digit steps depth hc, hread, Option.map_map]
    rfl

/-- What is written as a number, behind a minus sign or not, reads as the number. -/
theorem reads_of_numeral {k : Number} (negative : Bool) {n : Numeral}
    (htext : k.text.toList = signChars negative ++ n.chars) (hread : n.read? negative = some k) :
    k.Reads := by
  refine ⟨?_, ?_, fun steps depth rest hrest => ?_⟩
  · rw [htext]
    cases negative with
    | true => exact ⟨'-', n.chars, rfl, by decide, by decide⟩
    | false =>
      obtain ⟨c, cs, hchars, hc⟩ := n.exists_chars
      refine ⟨c, cs, hchars, isSpace_of_isDigit hc, ?_⟩
      rintro rfl
      exact absurd hc (by decide)
  · rw [htext]
    have hsign : Plain (signChars negative) := by
      cases negative with
      | true => decide
      | false => decide
    exact plain_append.mpr ⟨hsign, n.plain_chars⟩
  · rw [htext, value?_numeral steps depth negative n hrest, hread]
    rfl

/-- The digits of an integer, and nothing else. -/
def integerNumeral (n : Nat) : Numeral where
  whole := Nat.toDigits 10 n
  fraction := []
  exponent := none
  isDigit_whole := isDigit_toDigits n
  isDigit_fraction := List.forall_mem_nil _
  isLed_whole := isLed_toDigits n

/-- The text of a natural number, as a numeral without fraction and exponent. -/
theorem chars_integerNumeral (n : Nat) : (integerNumeral n).chars = (toString n).toList := by
  rw [Nat.toString_eq_ofList_toDigits, String.toList_ofList]
  exact List.append_nil _

/-- The digits of an integer that 64 bits hold are read. -/
theorem read?_integerNumeral {n : Nat} (hn : n ≤ Count.max) (negative : Bool) :
    (integerNumeral n).read? negative = integer? negative n := by
  have hdecimal : ¬ (integerNumeral n).IsDecimal :=
    not_or.mpr ⟨not_not_intro rfl, not_not_intro rfl⟩
  have hdigits : (integerNumeral n).digits = n :=
    (congrArg numberOf (List.append_nil _)).trans (numberOf_toDigits n)
  rw [Numeral.read?_integer _ negative hdecimal (hdigits.symm ▸ hn), hdigits]

/-- The text of an integer that 64 bits hold reads as the integer. -/
theorem reads_int {z : Int} (hlow : -Count.signedBound ≤ z) (hhigh : z ≤ Count.max) :
    (int z).Reads := by
  have hbound : Count.signedBound = 9223372036854775808 := rfl
  have hmax : Count.max = 18446744073709551615 := rfl
  cases z with
  | ofNat n =>
    have hn : n ≤ Count.max := Int.ofNat_le.mp hhigh
    have hread : integer? false n = some (.int n) := if_neg Bool.false_ne_true
    refine reads_of_numeral false ?_ ((read?_integerNumeral hn _).trans hread)
    rw [chars_integerNumeral]
    rfl
  | negSucc n =>
    rw [Int.negSucc_eq] at hlow
    have hn : n + 1 ≤ Count.max := by omega
    -- Behind a minus sign the reader takes what 64 bits hold with a sign, and no zero.
    have hsmall : ¬ (n + 1 = 0 ∨ Count.signedBound < (n + 1 : Nat)) := by omega
    have hread : integer? true (n + 1) = some (.int (Int.negSucc n)) := by
      rw [integer?, if_pos rfl, if_neg hsmall]
      rfl
    refine reads_of_numeral true ?_ ((read?_integerNumeral hn _).trans hread)
    show ("-" ++ toString (n + 1)).toList = '-' :: _
    rw [chars_integerNumeral, String.toList_append]
    rfl

end Number

/-! ### Doubles that read back -/

namespace Binary64

variable {x : Binary64}

/-- A double reads back wherever its text stands if it does so alone. -/
theorem reads_of_rereads (hx : x.magnitude.IsCanonical) (h : (Json.number (.float x)).Rereads) :
    (Number.float x).Reads := by
  obtain ⟨n, htext, -, -⟩ := x.exists_numeral hx
  refine Number.reads_of_numeral x.negative htext ?_
  have hprint : (Json.number (.float x)).print = x.text := by
    rw [Json.print]
    rfl
  obtain ⟨y, hy, hnormal⟩ := Option.map_eq_some_iff.mp h
  have hvalue := Number.value?_numeral (3 * x.text.toList.length + 2) depthLimit x.negative n ends_nil
  rw [List.append_nil, ← htext] at hvalue
  rw [hprint, Json.readRaw?, stepsFor, hvalue] at hy
  -- The text is read as a whole, so the numeral in it is read as that number.
  cases hread : n.read? x.negative with
  | none =>
    rw [hread] at hy
    cases hy
  | some k =>
    rw [hread] at hy
    cases hy
    exact congrArg some (Json.number.inj hnormal)

/-- A double of few digits, with few places before or behind them, reads back. -/
theorem rereads_of_isShort {n : Numeral} (hx : x.magnitude.IsCanonical)
    (htext : x.text.toList = Number.signChars x.negative ++ n.chars) (hshort : n.IsShort) :
    (Json.number (.float x)).Rereads := by
  obtain ⟨m, hm, hdecimal, hnearest⟩ := x.exists_numeral hx
  obtain rfl := n.chars_injective (List.append_cancel_left (htext.symm.trans hm))
  have hread : n.read? x.negative = some (.float x) := by
    rw [n.read?_of_isShort x.negative hdecimal hshort, hnearest]
    rfl
  exact Json.read?_print (.number (Number.reads_of_numeral x.negative htext hread))

end Binary64

end Dashboard
