import Dashboard.Proofs.CalendarDays
import Dashboard.Proofs.NumberReading
import Dashboard.Time.Rfc3339
import Dashboard.Time.Stamp
/-!
# Written times read as the times that they denote

* `Rfc3339.digits?_fixedDigits` — a number in exactly so many digits is read.
* `Rfc3339.nanosOfDigits_eq` — the nanoseconds of a fraction are the whole part of a quotient.
* `Rfc3339.readChars?_chars` — each part of a stamp is read as it is written.
* `Stamp.Denotes.readInstant?_text` — so a stamp reads as the instant that it denotes.
* `Rfc3339.readInstant?_toString` — and the text of an integer is no stamp.
-/

namespace Dashboard.Time

namespace Rfc3339

/-! ### Digits -/

/-- The character of a digit reads as the digit. -/
theorem digit?_digitChar {d : Nat} (hd : d < 10) : digit? d.digitChar = some d := by
  have hall : ∀ d : Fin 10, digit? d.val.digitChar = some d.val := by decide
  exact hall ⟨d, hd⟩

/-- The character of a digit is one. -/
theorem isDigit_digitChar {d : Nat} (hd : d < 10) : d.digitChar.isDigit = true := by
  have hall : ∀ d : Fin 10, d.val.digitChar.isDigit = true := by decide
  exact hall ⟨d, hd⟩

/-- A number of fixed width is read from its digits, after what was read before. -/
theorem go_fixedDigits (width acc n : Nat) (rest : List Char) :
    digits?.go width acc (fixedDigits width n ++ rest) =
      some (acc * 10 ^ width + n % 10 ^ width, rest) := by
  induction width generalizing acc with
  | zero =>
    rw [fixedDigits, List.nil_append, digits?.go, Nat.pow_zero, Nat.mul_one, Nat.mod_one,
      Nat.add_zero]
  | succ width ih =>
    have hsplit : n % 10 ^ (width + 1) = n % 10 ^ width + 10 ^ width * (n / 10 ^ width % 10) :=
      Nat.mod_pow_succ
    -- The digit that is read now is the one in front, so it is added to what was read already.
    rw [fixedDigits, List.cons_append, digits?.go, digit?_digitChar (Nat.mod_lt _ (by decide))]
    show digits?.go width (acc * 10 + n / 10 ^ width % 10) _ = _
    rw [ih, hsplit, Nat.pow_succ, Nat.add_mul, Nat.mul_assoc, Nat.mul_comm 10 (10 ^ width),
      Nat.mul_comm (n / 10 ^ width % 10), Nat.add_assoc, Nat.add_comm (n % 10 ^ width)]

/-- A number in exactly so many digits is read. -/
theorem digits?_fixedDigits {width n : Nat} (hn : n < 10 ^ width) (rest : List Char) :
    digits? width (fixedDigits width n ++ rest) = some (n, rest) := by
  rw [digits?, go_fixedDigits, Nat.zero_mul, Nat.zero_add, Nat.mod_eq_of_lt hn]

/-- The nanoseconds of a fraction are the whole part of what its digits denote. -/
theorem nanosOfDigits_eq {ds : List Char} (hd : ∀ c ∈ ds, c.isDigit = true) :
    nanosOfDigits ds = numberOf ds * 1000000000 / 10 ^ ds.length := by
  have hpos (k : Nat) : 0 < 10 ^ k := Nat.pow_pos (by decide)
  have hnine : 1000000000 = 10 ^ 9 := by decide
  have hvalue : nanosOfDigits ds = numberOf (ds.take 9) * 10 ^ (9 - ds.length) :=
    numberOf_append_zeros (ds.take 9) (9 - ds.length)
  rw [hvalue, hnine]
  by_cases hlength : ds.length ≤ 9
  · -- Up to nine digits are filled up with zeros.
    have hpower : 10 ^ 9 = 10 ^ (9 - ds.length) * 10 ^ ds.length := by
      rw [← Nat.pow_add, Nat.sub_add_cancel hlength]
    rw [List.take_of_length_le hlength, hpower, ← Nat.mul_assoc, Nat.mul_div_cancel _ (hpos _)]
  · -- What stands behind the ninth digit is less than one of its units.
    have hdrop : (ds.drop 9).length = ds.length - 9 := List.length_drop
    have hpower : 10 ^ ds.length = 10 ^ (ds.drop 9).length * 10 ^ 9 := by
      rw [hdrop, ← Nat.pow_add, Nat.sub_add_cancel (by omega)]
    have hsplit : numberOf ds =
        numberOf (ds.take 9) * 10 ^ (ds.drop 9).length + numberOf (ds.drop 9) := by
      rw [← numberOf_append, List.take_append_drop]
    have hlt : numberOf (ds.drop 9) < 10 ^ (ds.drop 9).length :=
      numberOf_lt fun c hc => hd c (List.mem_of_mem_drop hc)
    rw [hpower, Nat.mul_div_mul_right _ _ (hpos 9), hsplit, Nat.sub_eq_zero_of_le (by omega),
      Nat.pow_zero, Nat.mul_one, Nat.mul_comm, Nat.mul_add_div (hpos _),
      Nat.div_eq_of_lt hlt, Nat.add_zero]

/-! ### The parts of a stamp -/

/-- The text of a date reads as its year, month and day. -/
theorem date?_fixedDigits (d : Date) (hy : d.year ≤ 9999) (rest : List Char) :
    date? (fixedDigits 4 d.year ++ '-' :: (fixedDigits 2 d.month ++ '-' ::
      (fixedDigits 2 d.day ++ rest))) = some ((d.year, d.month, d.day), rest) := by
  have hyear : d.year < 10 ^ 4 := Nat.lt_succ_of_le hy
  obtain ⟨-, hmonth⟩ := month_of_isDate d.valid
  obtain ⟨-, hday⟩ := isDate_iff.mp d.valid
  have hlast := daysInMonth_le d.year d.month
  have hchar (cs : List Char) : char? '-' ('-' :: cs) = some cs := rfl
  unfold date?
  simp only [digits?_fixedDigits hyear, digits?_fixedDigits (show d.month < 10 ^ 2 by omega),
    digits?_fixedDigits (show d.day < 10 ^ 2 by omega), hchar, d.valid, Option.bind_eq_bind,
    Option.bind_some]
  rfl

/-- The text of a time of day reads as its hour, minute and second. -/
theorem clock?_fixedDigits (hour : Fin 24) (minute second : Fin 60) (rest : List Char) :
    clock? (fixedDigits 2 hour ++ ':' :: (fixedDigits 2 minute ++ ':' ::
      (fixedDigits 2 second ++ rest))) = some ((hour.val, minute.val, second.val), rest) := by
  have hguard : hour.val < 24 ∧ minute.val < 60 ∧ second.val ≤ 60 :=
    ⟨hour.isLt, minute.isLt, Nat.le_of_lt second.isLt⟩
  have hchar (cs : List Char) : char? ':' (':' :: cs) = some cs := rfl
  unfold clock?
  simp only [digits?_fixedDigits (show hour.val < 10 ^ 2 by omega),
    digits?_fixedDigits (show minute.val < 10 ^ 2 by omega),
    digits?_fixedDigits (show second.val < 10 ^ 2 by omega), hchar, hguard, Option.bind_eq_bind,
    Option.bind_some]
  rfl

theorem separator?_char (sep : Separator) (rest : List Char) :
    separator? (sep.char :: rest) = some rest := by
  cases sep <;> rfl

/-- An offset begins with no digit and no point. -/
theorem head?_zone (z : Zone) : ∀ c ∈ z.chars.head?, c.isDigit = false ∧ c ≠ '.' := by
  intro c hc
  cases z with
  | upperZ => cases hc; decide
  | lowerZ => cases hc; decide
  | ahead hours minutes => cases hc; decide
  | behind hours minutes => cases hc; decide

/-- A fraction has digits only. -/
theorem isDigit_fraction (t : Stamp) :
    ∀ c ∈ t.fraction.map fun d => d.val.digitChar, c.isDigit = true := by
  intro c hc
  obtain ⟨d, -, rfl⟩ := List.mem_map.mp hc
  exact isDigit_digitChar d.isLt

/-- The digits of a fraction denote its number. -/
theorem numberOf_fraction (t : Stamp) :
    numberOf (t.fraction.map fun d => d.val.digitChar) = t.fractionNumber := by
  have hdigit : ∀ d : Fin 10, d.val.digitChar.toNat - '0'.toNat = d.val := by decide
  rw [numberOf, List.foldl_map, Stamp.fractionNumber]
  simp only [hdigit]

/-- The nanoseconds of the fraction of a stamp. -/
theorem fraction?_fractionChars (t : Stamp) :
    fraction? (t.fractionChars ++ t.zone.chars) =
      some (t.fractionNumber * 1000000000 / 10 ^ t.fraction.length, t.zone.chars) := by
  have hhead := head?_zone t.zone
  unfold Stamp.fractionChars
  by_cases hnil : t.fraction = []
  · -- An offset begins with no point, so no fraction is read where none is written.
    have hzero : t.fractionNumber = 0 := by rw [Stamp.fractionNumber, hnil, List.foldl_nil]
    rw [if_pos hnil, List.nil_append, hzero, Nat.zero_mul, Nat.zero_div]
    unfold fraction?
    split
    · rename_i heq
      rw [heq] at hhead
      exact absurd rfl (hhead '.' rfl).2
    · rfl
  · obtain ⟨htake, hdrop⟩ := takeWhile_digits (isDigit_fraction t) fun c hc => (hhead c hc).1
    have hempty : (t.fraction.map fun d => d.val.digitChar).isEmpty = false := by
      rw [List.isEmpty_map]
      exact List.isEmpty_eq_false_iff.mpr hnil
    rw [if_neg hnil, List.cons_append, fraction?, htake, hdrop, hempty,
      nanosOfDigits_eq (isDigit_fraction t), numberOf_fraction, List.length_map]
    rfl

/-- The text of a time zone reads as its offset, with nothing left. -/
theorem offset?_chars (z : Zone) : offset? z.chars = some (z.offset, []) := by
  -- The two signs are read alike.
  have hnumeric (mark : Char) (sign : Int) (hours : Fin 24) (minutes : Fin 60) (hZ : mark ≠ 'Z')
      (hz : mark ≠ 'z') (hsign : ∀ cs, sign? (mark :: cs) = some (sign, cs)) :
      offset? (mark :: (fixedDigits 2 hours ++ ':' :: fixedDigits 2 minutes)) =
        some (sign * (hours * 3600 + minutes * 60), []) := by
    have hlast := @digits?_fixedDigits 2 minutes.val (by omega) []
    have hguard : hours.val < 24 ∧ minutes.val < 60 := ⟨hours.isLt, minutes.isLt⟩
    have hchar (cs : List Char) : char? ':' (':' :: cs) = some cs := rfl
    rw [List.append_nil] at hlast
    unfold offset?
    split
    · rename_i heq
      exact absurd (List.cons.inj heq).1 hZ
    · rename_i heq
      exact absurd (List.cons.inj heq).1 hz
    · simp only [hsign, digits?_fixedDigits (show hours.val < 10 ^ 2 by omega), hlast, hchar,
        hguard, Option.bind_eq_bind, Option.bind_some]
      rfl
  cases z with
  | upperZ => rfl
  | lowerZ => rfl
  | ahead hours minutes =>
    rw [Zone.chars, hnumeric '+' 1 hours minutes (by decide) (by decide) fun _ => rfl, Int.one_mul,
      Zone.offset]
  | behind hours minutes =>
    rw [Zone.chars, hnumeric '-' (-1) hours minutes (by decide) (by decide) fun _ => rfl,
      Int.neg_one_mul, Zone.offset]

/-- Each part of a stamp is read as it is written. -/
theorem readChars?_chars (t : Stamp) :
    readChars? t.chars = some (instantOf t.date.year t.date.month t.date.day t.hour t.minute
      t.second (t.fractionNumber * 1000000000 / 10 ^ t.fraction.length) t.zone.offset) := by
  have hdate := date?_fixedDigits t.date t.year_le
  have hclock := clock?_fixedDigits t.hour t.minute t.second
  unfold readChars? Stamp.chars
  simp only [List.append_assoc, List.cons_append, hdate, hclock, separator?_char,
    fraction?_fractionChars, offset?_chars, Option.bind_eq_bind, Option.bind_some]
  rfl

end Rfc3339

/-! ### What a stamp denotes -/

/-- Seconds and a fraction that are so many milliseconds. -/
theorem parts_of_millis {seconds : Int} {fraction power millis : Nat} (hlt : fraction < power)
    (h : 1000 * (seconds * power + fraction) = (millis : Int) * power) :
    seconds = (millis / 1000 : Nat) ∧ 1000 * fraction = millis % 1000 * power := by
  have hsplit : millis / 1000 * 1000 + millis % 1000 = millis := Nat.div_add_mod' millis 1000
  generalize millis / 1000 = whole at hsplit ⊢
  generalize hrest : millis % 1000 = rest at hsplit ⊢
  have hsmall : rest < 1000 := by omega
  have hpower : rest * power + power ≤ 1000 * power := by
    rw [← Nat.succ_mul]
    exact Nat.mul_le_mul_right power hsmall
  have hmillis : millis * power = 1000 * (whole * power) + rest * power := by
    rw [← hsplit, Nat.add_mul, Nat.mul_comm whole, Nat.mul_assoc]
  rw [← Int.natCast_mul, hmillis, Int.natCast_add, Int.natCast_mul, Int.natCast_mul,
    Int.mul_add] at h
  -- A second too few or too many is off by `power`, more than both fractions can make up for.
  have hseconds : seconds = whole := by
    rcases Int.lt_trichotomy seconds whole with hless | heq | hmore
    · have hstep : (seconds + 1) * power ≤ whole * power :=
        Int.mul_le_mul_of_nonneg_right hless (Int.natCast_nonneg power)
      rw [Int.add_mul, Int.one_mul] at hstep
      omega
    · exact heq
    · have hstep : ((whole : Int) + 1) * power ≤ seconds * power :=
        Int.mul_le_mul_of_nonneg_right hmore (Int.natCast_nonneg power)
      rw [Int.add_mul, Int.one_mul] at hstep
      omega
  refine ⟨hseconds, ?_⟩
  rw [hseconds] at h
  omega

/-- A stamp reads as the instant that it denotes. -/
theorem Stamp.Denotes.readInstant?_text {t : Stamp} {millis : Nat} (h : t.Denotes millis) :
    Rfc3339.readInstant? t.text = some (Instant.ofMillis millis) := by
  obtain ⟨days, hdate, hvalue⟩ := h
  have hpos : 0 < 10 ^ t.fraction.length := Nat.pow_pos (by decide)
  have hlt : t.fractionNumber < 10 ^ t.fraction.length := by
    rw [← Rfc3339.numberOf_fraction, ← List.length_map fun d : Fin 10 => d.val.digitChar]
    exact numberOf_lt (Rfc3339.isDigit_fraction t)
  have hpower : (10 : Int) ^ t.fraction.length = (10 ^ t.fraction.length : Nat) :=
    (Int.natCast_pow 10 t.fraction.length).symm
  rw [hpower] at hvalue
  obtain ⟨hseconds, hfraction⟩ := parts_of_millis hlt hvalue
  -- The fraction comes to whole milliseconds, so no digit is cut off.
  have hnanos : t.fractionNumber * 1000000000 / 10 ^ t.fraction.length =
      millis % 1000 * 1000000 := by
    have hscaled : t.fractionNumber * 1000000000 =
        millis % 1000 * 1000000 * 10 ^ t.fraction.length := by
      rw [Nat.mul_right_comm, ← hfraction]
      omega
    rw [hscaled, Nat.mul_div_cancel _ hpos]
  have hleap : ¬ t.second.val = 60 := Nat.ne_of_lt t.second.isLt
  rw [Rfc3339.readInstant?, Stamp.text, String.toList_ofList, Rfc3339.readChars?_chars,
    Rfc3339.instantOf, daysSinceEpoch_afterEpoch hdate, hnanos, Instant.ofMillis, ← hseconds]
  simp only [hleap, if_false]
  rfl

/-! ### Integers are no stamps -/

namespace Rfc3339

/-- The reader of digits adds no characters to the rest. -/
theorem mem_of_go {width acc n : Nat} {cs rest : List Char}
    (h : digits?.go width acc cs = some (n, rest)) : ∀ c ∈ rest, c ∈ cs := by
  induction width generalizing acc cs with
  | zero =>
    cases h
    exact fun _ hc => hc
  | succ width ih =>
    cases cs with
    | nil => cases h
    | cons b cs =>
      rw [digits?.go] at h
      obtain ⟨d, -, h⟩ := Option.bind_eq_some_iff.mp h
      exact fun c hc => List.mem_cons_of_mem b (ih h c hc)

/-- Behind the year of a stamp stands a hyphen. -/
theorem readChars?_of_digits {cs : List Char} (hd : ∀ c ∈ cs, c.isDigit = true) :
    readChars? cs = none := by
  have hdate : date? cs = none := by
    unfold date?
    cases hyear : digits? 4 cs with
    | none => rfl
    | some read =>
      obtain ⟨year, rest⟩ := read
      -- What is left behind the year are digits, if anything.
      have hhyphen : char? '-' rest = none := by
        cases rest with
        | nil => rfl
        | cons c rest =>
          have hc : c.isDigit = true := hd c (mem_of_go hyear c List.mem_cons_self)
          refine if_neg ?_
          rintro rfl
          exact absurd hc (by decide)
      simp only [hhyphen, Option.bind_eq_bind, Option.bind_some, Option.bind_none]
  unfold readChars?
  rw [hdate]
  rfl

/-- The text of an integer is not read as a stamp. -/
theorem readInstant?_toString (z : Int) : readInstant? (toString z) = none := by
  cases z with
  | ofNat n => exact readChars?_of_digits fun _ hc => isDigit_of_mem_toString hc
  | negSucc n =>
    rw [readInstant?, toList_toString_negSucc]
    rfl

end Rfc3339

end Dashboard.Time
