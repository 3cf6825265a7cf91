import Dashboard.Payload
import Dashboard.Proofs.TextEnds
import Mathlib.Algebra.Group.Nat.Defs
import Mathlib.Data.Option.Basic
/-!
# The text of a number

* `toString_nat_injective` — a number has a decimal text of its own, `span_toString` — which ends
  where no digit follows.
* `Binary64.exists_mark` — the text of a double has a point or an exponent.
* `Number.text_eq_iff` — so only an integer has the text of an integer.
* `ofChars?_of_digits` — digits alone spell the number that they denote.
* `Magnitude.exists_ofNat?` — a double holds a natural number of up to 53 bits exactly.
* `readDouble?_toString`, `Payload.count?_toString` — so the text of such a number reads as the
  number.
-/

namespace Dashboard

theorem toString_uint64 (n : UInt64) : toString n = toString n.toNat := rfl

/-- No two natural numbers have one text. -/
theorem toString_nat_injective {m n : Nat} (heq : toString m = toString n) : m = n := by
  rw [Nat.toString_eq_ofList_toDigits, Nat.toString_eq_ofList_toDigits] at heq
  have hd : Nat.toDigits 10 m = Nat.toDigits 10 n := String.ofList_injective heq
  calc
    m = Nat.ofDigitChars 10 (Nat.toDigits 10 m) 0 := Nat.ofDigitChars_ten_toDigits.symm
    _ = Nat.ofDigitChars 10 (Nat.toDigits 10 n) 0 := by rw [hd]
    _ = n := Nat.ofDigitChars_ten_toDigits

/-- The text of a natural number has digits alone. -/
theorem isDigit_of_mem_toString {n : Nat} {c : Char} (hc : c ∈ (toString n).toList) :
    c.isDigit = true := by
  rw [Nat.toString_eq_ofList_toDigits, String.toList_ofList] at hc
  exact Nat.isDigit_of_mem_toDigits (by decide) (by decide) hc

/-- The digits of a number and what stands behind them. -/
theorem span_toString (n : Nat) {behind : List Char}
    (hbehind : ∀ c ∈ behind.head?, c.isDigit = false) :
    ((toString n).toList ++ behind).takeWhile Char.isDigit = (toString n).toList ∧
      ((toString n).toList ++ behind).dropWhile Char.isDigit = behind := by
  have hdigits : ∀ c ∈ (toString n).toList, c.isDigit = true :=
    fun _ hc => isDigit_of_mem_toString hc
  rw [List.takeWhile_append_of_pos hdigits, List.dropWhile_append_of_pos hdigits]
  cases behind with
  | nil => exact ⟨List.append_nil _, rfl⟩
  | cons c cs =>
    have hc : ¬ c.isDigit = true := Bool.eq_false_iff.mp (hbehind c rfl)
    rw [List.takeWhile_cons_of_neg hc, List.dropWhile_cons_of_neg hc]
    exact ⟨List.append_nil _, rfl⟩

/-- A point or an exponent: what the text of no integer has. -/
def Binary64.isMark (c : Char) : Prop := c = '.' ∨ c = 'e'

/-- The text of a decimal has a mark, a point or an exponent, that no integer has. -/
theorem Layout.exists_mark (l : Layout) (d : Decimal) :
    ∃ c ∈ (l.text d).toList, Binary64.isMark c := by
  simp only [text]
  split
  · simp only [positional]
    split
    · exact ⟨'.', by simp, .inl rfl⟩
    · exact ⟨'.', by simp, .inl rfl⟩
  · exact ⟨'e', by simp [scientific], .inr rfl⟩

/-- The text of a double has a mark, so it is not the text of an integer. -/
theorem Binary64.exists_mark (x : Binary64) : ∃ c ∈ x.text.toList, isMark c := by
  simp only [text, String.toList_append, List.mem_append]
  by_cases hz : x.magnitude.significand = 0
  · exact ⟨'.', .inr (by simp [hz]), .inl rfl⟩
  · obtain ⟨c, hc, hm⟩ := Layout.exists_mark layout x.magnitude.shortest
    exact ⟨c, .inr (by simpa [hz] using hc), hm⟩

/-- The text of a negative integer has a sign before the digits. -/
theorem toList_toString_negSucc (n : Nat) :
    (toString (Int.negSucc n)).toList = '-' :: (toString (n + 1)).toList := by
  rw [show toString (Int.negSucc n) = "-" ++ toString (n + 1) from rfl, String.toList_append]
  rfl

/-- An integer has the text of a natural number only if it is that number. -/
theorem toString_int_eq_iff {z : Int} {n : Nat} : toString z = toString n ↔ z = n := by
  cases z with
  | ofNat m =>
    constructor
    · intro heq
      exact congrArg Int.ofNat (toString_nat_injective heq)
    · intro heq
      exact congrArg toString (Int.ofNat_inj.mp heq)
  | negSucc m =>
    refine ⟨fun heq => ?_, fun heq => by cases heq⟩
    have hd : '-' ∈ (toString n).toList := by
      rw [← heq, toList_toString_negSucc]
      exact List.mem_cons_self
    exact absurd (isDigit_of_mem_toString hd) (by decide)

/-- Only the integer itself has the text of an integer. -/
theorem Number.text_eq_iff {x : Number} {n : Nat} : x.text = toString n ↔ x = .int n := by
  cases x with
  | int z => rw [text, toString_int_eq_iff, int.injEq]
  | float y =>
    refine ⟨fun heq => ?_, fun heq => by cases heq⟩
    obtain ⟨c, hc, hm⟩ := y.exists_mark
    rw [show y.text = toString n from heq] at hc
    have hd := isDigit_of_mem_toString hc
    rcases hm with rfl | rfl <;> exact absurd hd (by decide)

/-! ### Reading it back -/

section

variable {ds : List Char}

theorem toNat_of_isDigit {c : Char} (hc : c.isDigit = true) : 48 ≤ c.toNat ∧ c.toNat ≤ 57 := by
  simpa [Char.isDigit, UInt32.le_iff_toNat_le] using hc

/-- No digit is blank. -/
theorem isBlank_of_isDigit {c : Char} (hc : c.isDigit = true) : Text.isBlank c = false := by
  have hrange := toNat_of_isDigit hc
  simp only [Text.isBlank, Bool.or_eq_false_iff, Bool.and_eq_false_iff, decide_eq_false_iff_not,
    beq_eq_false_iff_ne]
  omega

/-- A digit has no other letter case. -/
theorem toLower_of_isDigit {c : Char} (hc : c.isDigit = true) : c.toLower = c := by
  have hrange := toNat_of_isDigit hc
  have hupper : ¬ (c.val ≥ 'A'.val ∧ c.val ≤ 'Z'.val) := fun h => by
    have hlow : 65 ≤ c.toNat := UInt32.le_iff_toNat_le.mp h.1
    omega
  exact dif_neg hupper

/-- Nothing is trimmed off digits. -/
theorem trimChars_of_digits (hd : ∀ c ∈ ds, c.isDigit = true) : Text.trimChars ds = ds :=
  Text.trimChars_of_ends (fun _ hc => isBlank_of_isDigit (hd _ (List.mem_of_head? hc)))
    fun _ hc => isBlank_of_isDigit (hd _ (List.mem_of_getLast? hc))

/-- The digits of a number denote it. -/
theorem numberOf_toDigits (n : Nat) : numberOf (Nat.toDigits 10 n) = n := by
  calc
    numberOf (Nat.toDigits 10 n) = Nat.ofDigitChars 10 (Nat.toDigits 10 n) 0 := by
      simp only [numberOf, Nat.ofDigitChars, Nat.mul_comm]
    _ = n := Nat.ofDigitChars_ten_toDigits

/-- Digits alone have no sign. -/
theorem sign_of_digits (hd : ∀ c ∈ ds, c.isDigit = true) : Reading.sign ds = (false, ds) := by
  unfold Reading.sign
  split
  · exact absurd (hd '-' List.mem_cons_self) (by decide)
  · exact absurd (hd '+' List.mem_cons_self) (by decide)
  · rfl

/-- What is read of characters that must all be digits. -/
theorem allDigits?_eq_some {n : Nat} : Reading.allDigits? ds = some n ↔
    ds ≠ [] ∧ (∀ c ∈ ds, c.isDigit = true) ∧ numberOf ds = n := by
  rw [Reading.allDigits?, Option.ite_none_right_eq_some, Bool.and_eq_true, Bool.not_eq_true',
    List.isEmpty_eq_false_iff, List.all_eq_true, Option.some_inj, and_assoc]

/-- The text of a natural number is read as the number. -/
theorem allDigits?_toString (n : Nat) : Reading.allDigits? (toString n).toList = some n := by
  rw [allDigits?_eq_some]
  refine ⟨?_, fun _ hc => isDigit_of_mem_toString hc, ?_⟩
  · rw [Nat.toString_eq_ofList_toDigits, String.toList_ofList]
    exact Nat.toDigits_ne_nil
  · rw [Nat.toString_eq_ofList_toDigits, String.toList_ofList]
    exact numberOf_toDigits n

/-- Digits are no name of a number. -/
theorem named?_of_digits (hd : ∀ c ∈ ds, c.isDigit = true) (negative : Bool) :
    Reading.named? negative ds = none := by
  have hlower : ds.map Char.toLower = ds := by
    simpa using List.map_congr_left fun c hc => toLower_of_isDigit (hd c hc)
  have hword (s : String) (c : Char) (hc : c ∈ s.toList) (hdigit : c.isDigit = false) :
      (String.ofList (ds.map Char.toLower) == s) = false := by
    rw [hlower, beq_eq_false_iff_ne]
    rintro rfl
    rw [String.toList_ofList] at hc
    simp [hd c hc] at hdigit
  simp only [Reading.named?, hword "inf" 'i' (by decide) (by decide),
    hword "infinity" 'i' (by decide) (by decide), hword "nan" 'n' (by decide) (by decide),
    Bool.or_self, Bool.false_eq_true, if_false]

/-- Digits without point and exponent are read as a natural number. -/
theorem unsigned?_of_digits (hne : ds ≠ []) (hd : ∀ c ∈ ds, c.isDigit = true) :
    Reading.unsigned? ds = some (numberOf ds, 0) := by
  have htake : ds.takeWhile Char.isDigit = ds := by
    have h : (ds ++ []).takeWhile Char.isDigit = ds ++ [] := List.takeWhile_append_of_pos hd
    simpa using h
  have hdrop : ds.dropWhile Char.isDigit = [] := by
    have h : (ds ++ []).dropWhile Char.isDigit = [] := List.dropWhile_append_of_pos hd
    simpa using h
  have hguard : (!(ds.isEmpty && ([] : List Char).isEmpty)) = true := by simp [hne]
  simp only [Reading.unsigned?, htake, hdrop, hguard, Reading.exponent?, List.append_nil]
  rfl

/-- Digits alone spell the number that they denote. -/
theorem ofChars?_of_digits (hne : ds ≠ []) (hd : ∀ c ∈ ds, c.isDigit = true) :
    Reading.ofChars? ds = some (Reading.ofDecimal false (numberOf ds) 0) := by
  simp only [Reading.ofChars?, sign_of_digits hd, named?_of_digits hd, unsigned?_of_digits hne hd,
    Option.map_some]

end

namespace Magnitude

open Binary64

theorem roundDiv_mul {q d : Nat} (hd : 0 < d) : roundDiv (q * d) d = q := by
  simp [roundDiv, Nat.mul_div_cancel _ hd, hd]

/-- The scale of units of more bits than a significand has is the number of bits too many. -/
theorem scaleFor_of_le {u k : Nat} (hk : precision ≤ k) (hlow : 2 ^ k ≤ u)
    (hhigh : u < 2 ^ (k + 1)) : scaleFor u = k - (precision - 1) := by
  have hbound : significandBound ≤ u := Nat.le_trans (Nat.pow_le_pow_right (by decide) hk) hlow
  have hne : u ≠ 0 := fun h => absurd hlow (by simp [h])
  rw [scaleFor, if_neg (Nat.not_lt.mpr hbound), (Nat.log2_eq_iff hne).mpr ⟨hlow, hhigh⟩]

/-- The units of one are a power of two. -/
theorem denominator_eq : denominator = 2 ^ denominatorBits := by
  delta denominator
  generalize denominatorBits = b
  exact Nat.pow_eq

section

variable {n : Nat} (h0 : n ≠ 0) (hn : n < significandBound)

include h0 hn

/-- A number below the bound has no more bits than a significand. -/
theorem log2_lt_precision : n.log2 < precision :=
  (Nat.pow_lt_pow_iff_right (by decide)).mp (Nat.lt_of_le_of_lt (Nat.log2_self_le h0) hn)

/-- The units of a number, split into a significand and a power of two. -/
theorem mul_denominator :
    n * denominator = n * 2 ^ (52 - n.log2) * 2 ^ (n.log2 + 1022) := by
  have hbits := log2_lt_precision h0 hn
  have hexponent : denominatorBits = 52 - n.log2 + (n.log2 + 1022) := by
    rw [show precision = 53 from rfl] at hbits
    rw [show denominatorBits = 1074 from rfl]
    omega
  rw [denominator_eq, Nat.mul_assoc, ← Nat.pow_add, hexponent]

omit hn in
/-- The scale at which a natural number fills the significand. -/
theorem scaleFor_mul_denominator : scaleFor (n * denominator) = n.log2 + 1022 := by
  have hprecision : precision = 53 := rfl
  have hdenominatorBits : denominatorBits = 1074 := rfl
  have h : scaleFor (n * denominator) = n.log2 + denominatorBits - (precision - 1) := by
    refine scaleFor_of_le (by omega) ?_ ?_
    · rw [denominator_eq, Nat.pow_add]
      exact Nat.mul_le_mul_right _ (Nat.log2_self_le h0)
    · rw [denominator_eq, Nat.add_right_comm, Nat.pow_add]
      exact Nat.mul_lt_mul_of_pos_right Nat.lt_log2_self (Nat.two_pow_pos _)
  omega

/-- The significand of a natural number is below the bound. -/
theorem significand_lt : n * 2 ^ (52 - n.log2) < significandBound := by
  have hbits := log2_lt_precision h0 hn
  have hbound : significandBound = 2 ^ (n.log2 + 1) * 2 ^ (52 - n.log2) := by
    have hexponent : precision = n.log2 + 1 + (52 - n.log2) := by
      rw [show precision = 53 from rfl] at hbits ⊢
      omega
    rw [← Nat.pow_add, ← hexponent]
    exact Nat.pow_eq
  rw [hbound]
  exact Nat.mul_lt_mul_of_pos_right Nat.lt_log2_self (Nat.two_pow_pos _)

/-- A double holds every natural number of up to 53 bits exactly. -/
theorem exists_ofNat? : ∃ m, ofNat? n = some m ∧ m.units = n * denominator := by
  have hunits := mul_denominator h0 hn
  have hscale := scaleFor_mul_denominator h0
  have hsignificand := significand_lt h0 hn
  refine ⟨⟨n * 2 ^ (52 - n.log2), n.log2 + 1022⟩, ?_, ?_⟩
  · have hmax : n.log2 + 1022 ≤ maxScale := by
      have hbits := log2_lt_precision h0 hn
      rw [show precision = 53 from rfl] at hbits
      rw [show maxScale = 2045 from rfl]
      omega
    simp only [ofNat?, ofRatio?, Nat.div_one, hscale, Nat.pow_eq, Nat.one_mul]
    rw [hunits, roundDiv_mul (Nat.two_pow_pos _)]
    simp [settle?, Nat.ne_of_lt hsignificand, hmax]
  · rw [units, Nat.pow_eq, hunits]

end

/-- The whole part of a natural number is the number. -/
theorem floor_of_units {m : Magnitude} {n : Nat} (h : m.units = n * denominator) : m.floor = n := by
  rw [floor, h, denominator_eq]
  exact Nat.mul_div_cancel _ (Nat.two_pow_pos _)

/-- A decimal with no exponent is rounded as a natural number. -/
theorem ofDecimal?_zero {n : Nat} (h0 : n ≠ 0) : ofDecimal? n 0 = ofNat? n := by
  have hsmall : ¬ (0 : Int) < -(400 + (Nat.log2 n : Int)) := by omega
  rw [ofDecimal?, if_neg h0, if_neg (by decide), if_neg hsmall, if_pos (Int.le_refl 0),
    Int.toNat_zero, Nat.pow_eq, Nat.pow_zero, Nat.mul_one, ofNat?]

end Magnitude

/-- The text of a natural number spells it. -/
theorem readDouble?_toString (n : Nat) :
    readDouble? (Text.trim (toString n)) = some (Reading.ofDecimal false n 0) := by
  have hdigits : ∀ c ∈ Nat.toDigits 10 n, c.isDigit = true := fun c hc =>
    Nat.isDigit_of_mem_toDigits (by decide) (by decide) hc
  have hne : Nat.toDigits 10 n ≠ [] := Nat.toDigits_ne_nil
  rw [readDouble?, Text.toList_trim, Nat.toString_eq_ofList_toDigits, String.toList_ofList,
    trimChars_of_digits hdigits, ofChars?_of_digits hne hdigits, numberOf_toDigits]

/-- The text of a count of up to 53 bits reads as the count. -/
theorem Payload.count?_toString {n : Nat} (hn : n < Binary64.significandBound) :
    Payload.count? (.string (toString n)) = some n := by
  have hmost : n ≤ Count.max := Nat.le_trans (Nat.le_of_lt hn) (by decide)
  have hmagnitude : ∃ m, Magnitude.ofDecimal? n 0 = some m ∧ m.floor = n := by
    by_cases h0 : n = 0
    · subst h0
      exact ⟨Magnitude.zero, rfl, by decide +kernel⟩
    · obtain ⟨m, hm, hunits⟩ := Magnitude.exists_ofNat? h0 hn
      exact ⟨m, (Magnitude.ofDecimal?_zero h0).trans hm, Magnitude.floor_of_units hunits⟩
  obtain ⟨m, hm, hfloor⟩ := hmagnitude
  simp only [Payload.count?, readDouble?_toString, Option.bind_some, Reading.ofDecimal, hm,
    Reading.count?]
  simp [Binary64.isNonnegative, Binary64.floor, hfloor, hmost]

end Dashboard
