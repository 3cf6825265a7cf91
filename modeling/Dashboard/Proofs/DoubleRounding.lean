import Dashboard.Binary64.Shortest
import Dashboard.Proofs.NumberText
/-!
# Decimals that read back

Reading a decimal rounds its value, so all decimals with one value read as one double, and the
decimal that is written for a double reads as the double.

* `Magnitude.IsCanonical` — the magnitudes of doubles; `ofRatio?_canonical` — what is rounded is one.
* `Magnitude.ofRatio?_exact` — a value that a double holds is not rounded.
* `Magnitude.ofRatio?_mul` — a common factor of numerator and denominator is no matter.
* `Magnitude.ofDecimal?_eq` — exponents so far out that they are not multiplied out read as if they
  were.
* `Magnitude.ofDecimal?_shift` — zeros at the end of the digits may go to the exponent.
* `Magnitude.ofDecimal?_shortest` — the shortest decimal reads back.
* `Magnitude.shift?_exact` — few digits and a small power of ten are rounded once.
-/

namespace Dashboard.Magnitude

open Binary64

/-- The magnitudes of doubles, each in its only form. -/
structure IsCanonical (m : Magnitude) : Prop where
  significand_lt : m.significand < significandBound
  scale_le : m.scale ≤ maxScale
  normal : m.scale = 0 ∨ 2 ^ 52 ≤ m.significand

variable {m : Magnitude} {num den : Nat}

/-- A significand has 53 bits. -/
theorem significandBound_eq : significandBound = 2 ^ 53 := Nat.pow_eq

/-! ### Rounding -/

/-- Rounding goes to the next number below or above. -/
theorem roundDiv_bounds (num den : Nat) :
    num / den ≤ roundDiv num den ∧ roundDiv num den ≤ num / den + 1 := by
  unfold roundDiv
  dsimp only
  split
  · omega
  · split
    · omega
    · split <;> omega

/-- A common factor is no matter. -/
theorem roundDiv_mul_mul {c : Nat} (hc : 0 < c) (num den : Nat) :
    roundDiv (num * c) (den * c) = roundDiv num den := by
  have hbelow : 2 * (num % den * c) < den * c ↔ 2 * (num % den) < den := by
    rw [← Nat.mul_assoc]
    exact Nat.mul_lt_mul_right hc
  have habove : 2 * (num % den * c) > den * c ↔ 2 * (num % den) > den := by
    rw [← Nat.mul_assoc]
    exact Nat.mul_lt_mul_right hc
  unfold roundDiv
  dsimp only
  rw [Nat.mul_div_mul_right _ _ hc, Nat.mul_mod_mul_right]
  simp only [hbelow, habove]

/-- The scale of a magnitude is that of its units. -/
theorem IsCanonical.scaleFor_units (hm : m.IsCanonical) : scaleFor m.units = m.scale := by
  have hlt := hm.significand_lt
  rw [units, Nat.pow_eq]
  by_cases hs : m.scale = 0
  · rw [hs, Nat.pow_zero, Nat.mul_one, scaleFor, if_pos hlt]
  · -- The significand of a larger number fills its bits, so its scale is that of its units.
    have hnormal := hm.normal.resolve_left hs
    have hprecision : precision = 53 := rfl
    have hscale : scaleFor (m.significand * 2 ^ m.scale) = 52 + m.scale - (precision - 1) := by
      refine scaleFor_of_le (by omega) ?_ ?_
      · rw [Nat.pow_add]
        exact Nat.mul_le_mul_right _ hnormal
      · rw [significandBound_eq] at hlt
        rw [show 52 + m.scale + 1 = 53 + m.scale by omega, Nat.pow_add]
        exact Nat.mul_lt_mul_of_pos_right hlt (Nat.two_pow_pos _)
    omega

/-- A value that a double holds is not rounded. -/
theorem ofRatio?_exact (hm : m.IsCanonical) (hden : 0 < den)
    (h : num * denominator = m.units * den) : ofRatio? num den = some m := by
  have hsplit : m.units * den = m.significand * (den * 2 ^ m.scale) := by
    rw [units, Nat.pow_eq, Nat.mul_assoc, Nat.mul_comm (2 ^ m.scale)]
  have hpos : 0 < den * 2 ^ m.scale := Nat.mul_pos hden (Nat.two_pow_pos _)
  have hround : roundDiv (m.units * den) (den * Nat.pow 2 m.scale) = m.significand := by
    rw [hsplit, Nat.pow_eq, roundDiv_mul hpos]
  rw [ofRatio?, h, Nat.mul_div_cancel _ hden, hm.scaleFor_units, hround, settle?]
  rw [if_neg (Nat.ne_of_lt hm.significand_lt), if_pos hm.scale_le]

/-- A common factor of numerator and denominator is no matter. -/
theorem ofRatio?_mul {c : Nat} (hc : 0 < c) (num den : Nat) :
    ofRatio? (num * c) (den * c) = ofRatio? num den := by
  have hnum : num * c * denominator = num * denominator * c := Nat.mul_right_comm ..
  have hden (s : Nat) : den * c * Nat.pow 2 s = den * Nat.pow 2 s * c := Nat.mul_right_comm ..
  unfold ofRatio?
  dsimp only
  rw [hnum, Nat.mul_div_mul_right _ _ hc, hden, roundDiv_mul_mul hc]

/-- Rounding at the scale of a value gives 53 bits at most, and not less unless the scale is 0. -/
theorem roundDiv_scaleFor (units den : Nat) :
    let scale := scaleFor (units / den)
    let significand := roundDiv units (den * Nat.pow 2 scale)
    significand ≤ 2 ^ 53 ∧ (scale = 0 ∨ 2 ^ 52 ≤ significand) := by
  intro scale significand
  obtain ⟨hlow, hhigh⟩ := roundDiv_bounds units (den * Nat.pow 2 scale)
  rw [Nat.pow_eq, ← Nat.div_div_eq_div_mul] at hlow hhigh
  -- Values below the bound are not scaled; of others the first 53 bits are left.
  by_cases hsmall : units / den < significandBound
  · have hscale : scale = 0 := if_pos hsmall
    have hwhole : units / den / 2 ^ scale = units / den := by
      rw [hscale, Nat.pow_zero, Nat.div_one]
    rw [hwhole] at hhigh
    rw [significandBound_eq] at hsmall
    exact ⟨Nat.le_trans hhigh hsmall, .inl hscale⟩
  · have hbound : 2 ^ 53 ≤ units / den := by
      rw [← significandBound_eq]
      exact Nat.le_of_not_lt hsmall
    have hne : units / den ≠ 0 := by
      intro h
      rw [h] at hbound
      exact absurd hbound (by decide)
    have hlog : 53 ≤ (units / den).log2 := (Nat.le_log2 hne).mpr hbound
    have hscale : scale = (units / den).log2 - 52 := if_neg hsmall
    have hself := Nat.log2_self_le hne
    have hlt : units / den < 2 ^ ((units / den).log2 + 1) := Nat.lt_log2_self
    rw [show (units / den).log2 = 52 + scale by omega, Nat.pow_add] at hself
    rw [show (units / den).log2 + 1 = 53 + scale by omega, Nat.pow_add] at hlt
    have hmin : 2 ^ 52 ≤ units / den / 2 ^ scale :=
      (Nat.le_div_iff_mul_le (Nat.two_pow_pos _)).mpr hself
    have hmax : units / den / 2 ^ scale < 2 ^ 53 := Nat.div_lt_of_lt_mul (Nat.mul_comm .. ▸ hlt)
    exact ⟨Nat.le_trans hhigh hmax, .inr (Nat.le_trans hmin hlow)⟩

/-- What a value is rounded to is the magnitude of a double. -/
theorem ofRatio?_canonical (h : ofRatio? num den = some m) : m.IsCanonical := by
  obtain ⟨hhigh, hnormal⟩ := roundDiv_scaleFor (num * denominator) den
  unfold ofRatio? settle? at h
  dsimp only at h
  -- Either rounding carried to `2 ^ 53`, and the significand is halved, or it did not.
  split at h
  · split at h
    · rename_i hscale
      cases h
      have hlt : 2 ^ 52 < significandBound := by
        rw [significandBound_eq]
        decide
      exact ⟨hlt, hscale, .inr (Nat.le_refl _)⟩
    · cases h
  · rename_i hne
    split at h
    · rename_i hscale
      cases h
      rw [significandBound_eq] at hne
      refine ⟨?_, hscale, hnormal⟩
      rw [significandBound_eq]
      exact Nat.lt_of_le_of_ne hhigh hne
    · cases h

/-! ### Values far out -/

/-- A value that is too large for a double. -/
theorem ofRatio?_large {bits : Nat} (hbits : 1024 ≤ bits) (hden : 0 < den)
    (h : 2 ^ bits * den ≤ num) : ofRatio? num den = none := by
  have hunits : 2 ^ (bits + denominatorBits) ≤ num * denominator / den := by
    rw [Nat.le_div_iff_mul_le hden, denominator_eq]
    calc
      2 ^ (bits + denominatorBits) * den = 2 ^ bits * den * 2 ^ denominatorBits := by
        rw [Nat.pow_add, Nat.mul_right_comm]
      _ ≤ num * 2 ^ denominatorBits := Nat.mul_le_mul_right _ h
  have hne : num * denominator / den ≠ 0 := by
    intro h0
    rw [h0] at hunits
    exact absurd hunits (Nat.not_le.mpr (Nat.two_pow_pos _))
  have hlog : bits + denominatorBits ≤ (num * denominator / den).log2 :=
    (Nat.le_log2 hne).mpr hunits
  have hbig : ¬ num * denominator / den < significandBound := by
    rw [significandBound_eq]
    exact Nat.not_lt.mpr (Nat.le_trans (Nat.pow_le_pow_right (by decide) (by omega)) hunits)
  -- The scale that so many bits need is beyond the largest.
  have hscale : maxScale < scaleFor (num * denominator / den) := by
    rw [scaleFor, if_neg hbig, show maxScale = 2045 from rfl, show precision = 53 from rfl]
    rw [show denominatorBits = 1074 from rfl] at hlog
    omega
  unfold ofRatio? settle?
  dsimp only
  split
  · exact if_neg (by dsimp only; omega)
  · exact if_neg (by dsimp only; omega)

/-- A value that is too small for a double. -/
theorem ofRatio?_small (h : 2 * (num * denominator) < den) : ofRatio? num den = some zero := by
  have hzero : num * denominator / den = 0 := Nat.div_eq_of_lt (by omega)
  have hmod : num * denominator % den = num * denominator := Nat.mod_eq_of_lt (by omega)
  have hscale : scaleFor 0 = 0 := rfl
  unfold ofRatio?
  dsimp only
  rw [hzero, hscale, Nat.pow_eq, Nat.pow_zero, Nat.mul_one, roundDiv]
  rw [hmod, hzero, if_pos h]
  rfl

/-- A power of ten has three bits or more for each factor. -/
theorem two_pow_le_ten_pow (k : Nat) : 2 ^ (3 * k) ≤ 10 ^ k := by
  rw [Nat.pow_mul]
  exact Nat.pow_le_pow_left (by decide) k

/-- A decimal is too large for a double if its digits are followed by so many zeros. -/
theorem ofRatio?_zeros {digits zeros : Nat} (hd : 0 < digits) (hz : 400 < zeros) :
    ofRatio? (digits * 10 ^ zeros) 1 = none := by
  have hvalue : 2 ^ (3 * zeros) * 1 ≤ digits * 10 ^ zeros := calc
    2 ^ (3 * zeros) * 1 = 2 ^ (3 * zeros) := Nat.mul_one _
    _ ≤ 10 ^ zeros := two_pow_le_ten_pow zeros
    _ ≤ digits * 10 ^ zeros := Nat.le_mul_of_pos_left _ hd
  exact ofRatio?_large (by omega) Nat.one_pos hvalue

/-- A decimal is too small for a double if its digits stand so many places behind the point. -/
theorem ofRatio?_places {digits places : Nat} (hp : 400 + digits.log2 < places) :
    ofRatio? digits (10 ^ places) = some zero := by
  have hdigits : digits < 2 ^ (digits.log2 + 1) := Nat.lt_log2_self
  have hdenominator : 0 < denominator := denominator_eq ▸ Nat.two_pow_pos _
  have hbits : denominatorBits = 1074 := rfl
  refine ofRatio?_small ?_
  calc
    2 * (digits * denominator) < 2 * (2 ^ (digits.log2 + 1) * denominator) :=
      Nat.mul_lt_mul_of_pos_left (Nat.mul_lt_mul_of_pos_right hdigits hdenominator) (by decide)
    _ = 2 ^ (digits.log2 + 1 + denominatorBits + 1) := by
      rw [denominator_eq, ← Nat.pow_add, ← Nat.pow_succ']
    _ ≤ 2 ^ (3 * places) := Nat.pow_le_pow_right (by decide) (by omega)
    _ ≤ 10 ^ places := two_pow_le_ten_pow places

/-- Exponents so far out that they are not multiplied out read as if they were. -/
theorem ofDecimal?_eq {digits : Nat} (hd : digits ≠ 0) (exponent : Int) :
    ofDecimal? digits exponent =
      ofRatio? (digits * 10 ^ exponent.toNat) (10 ^ (-exponent).toNat) := by
  rw [ofDecimal?, if_neg hd]
  by_cases hlarge : exponent > 400
  · have hsign : (-exponent).toNat = 0 := by omega
    rw [if_pos hlarge, hsign, Nat.pow_zero, ofRatio?_zeros (Nat.pos_of_ne_zero hd) (by omega)]
  by_cases hsmall : exponent < -(400 + (Nat.log2 digits : Int))
  · have hsign : exponent.toNat = 0 := by omega
    rw [if_neg hlarge, if_pos hsmall, hsign, Nat.pow_zero, Nat.mul_one,
      ofRatio?_places (by omega)]
  rw [if_neg hlarge, if_neg hsmall]
  -- In between, the power of ten goes to the numerator or to the denominator.
  by_cases hsign : 0 ≤ exponent
  · rw [if_pos hsign, show (-exponent).toNat = 0 by omega, Nat.pow_zero, Nat.pow_eq]
  · rw [if_neg hsign, show exponent.toNat = 0 by omega, Nat.pow_zero, Nat.mul_one, Nat.pow_eq]

/-! ### Decimals -/

/-- Zeros at the end of the digits may go to the exponent. -/
theorem ofDecimal?_shift {digits : Nat} (hd : digits ≠ 0) (zeros : Nat) (exponent : Int) :
    ofDecimal? (digits * 10 ^ zeros) exponent = ofDecimal? digits (exponent + zeros) := by
  have hne : digits * 10 ^ zeros ≠ 0 :=
    Nat.mul_ne_zero hd (Nat.ne_of_gt (Nat.pow_pos (by decide)))
  -- Multiplied out, the two have a power of ten in common.
  obtain ⟨common, hnum, hden⟩ : ∃ common,
      zeros + exponent.toNat = (exponent + zeros).toNat + common ∧
        (-exponent).toNat = (-(exponent + zeros)).toNat + common :=
    ⟨zeros + exponent.toNat - (exponent + zeros).toNat, by omega, by omega⟩
  rw [ofDecimal?_eq hne, ofDecimal?_eq hd, Nat.mul_assoc, ← Nat.pow_add, hnum, hden, Nat.pow_add,
    Nat.pow_add, ← Nat.mul_assoc, ofRatio?_mul (Nat.pow_pos (by decide))]

/-- All digits of a magnitude read back. -/
theorem ofDecimal?_exact (hm : m.IsCanonical) (hne : m.significand ≠ 0) :
    ofDecimal? m.exact.digits m.exact.exponent = some m := by
  have hunits : m.units ≠ 0 := Nat.mul_ne_zero hne (Nat.ne_of_gt (Nat.two_pow_pos _))
  have hdigits (bits : Nat) : m.units * Nat.pow 5 bits ≠ 0 :=
    Nat.mul_ne_zero hunits (Nat.ne_of_gt (Nat.pow_pos (by decide)))
  -- Each halving is a tenth if the digits are multiplied by five.
  have hvalue (bits : Nat) : m.units * Nat.pow 5 bits * 10 ^ (-(bits : Int)).toNat * 2 ^ bits =
      m.units * 10 ^ (- -(bits : Int)).toNat := by
    rw [show (-(bits : Int)).toNat = 0 by omega, show (- -(bits : Int)).toNat = bits by omega,
      Nat.pow_zero, Nat.mul_one, Nat.pow_eq, Nat.mul_assoc, ← Nat.mul_pow]
  have hread : ∀ bits, denominator = 2 ^ bits →
      ofDecimal? (m.units * Nat.pow 5 bits) (-(bits : Int)) = some m := by
    intro bits hbits
    rw [ofDecimal?_eq (hdigits bits)]
    refine ofRatio?_exact hm (Nat.pow_pos (by decide)) ?_
    rw [hbits]
    exact hvalue bits
  exact hread denominatorBits denominator_eq

/-- A decimal is taken only if it reads back. -/
theorem readsBack_of_withPlaces? {places : Nat} {d : Decimal} (h : m.withPlaces? places = some d) :
    m.readsBack d = true := by
  rw [withPlaces?] at h
  exact List.find?_some h

/-- The shortest decimal reads back. -/
theorem ofDecimal?_shortest (hm : m.IsCanonical) (hne : m.significand ≠ 0) :
    ofDecimal? m.shortest.digits m.shortest.exponent = some m := by
  suffices hback : m.readsBack m.shortest = true from eq_of_beq hback
  rw [shortest]
  cases hfound : (List.range 17).findSome? fun i => m.withPlaces? (i + 1) with
  | some d =>
    obtain ⟨i, -, hplaces⟩ := List.exists_of_findSome?_eq_some hfound
    exact readsBack_of_withPlaces? hplaces
  | none => exact beq_iff_eq.mpr (ofDecimal?_exact hm hne)

/-- The digits of the shortest decimal are not all zero. -/
theorem digits_shortest (hm : m.IsCanonical) (hne : m.significand ≠ 0) : m.shortest.digits ≠ 0 := by
  intro hzero
  have hback := ofDecimal?_shortest hm hne
  rw [hzero, ofDecimal?, if_pos rfl] at hback
  cases hback
  exact hne rfl

/-! ### Powers of ten -/

/-- What a magnitude comes to with a power of ten is the magnitude of a double. -/
theorem shift?_canonical {x : Magnitude} {exponent : Int} (hx : x.IsCanonical)
    (h : x.shift? exponent = some m) : m.IsCanonical := by
  unfold shift? at h
  -- Zero stays, what is far too large is refused, and the rest is a last product or quotient.
  split at h
  · cases h
    exact hx
  split at h
  · cases h
  split at h
  · obtain ⟨_, -, hm⟩ := Option.bind_eq_some_iff.mp h
    exact ofRatio?_canonical hm
  · obtain ⟨y, -, h⟩ := Option.bind_eq_some_iff.mp h
    obtain ⟨_, -, hm⟩ := Option.bind_eq_some_iff.mp h
    exact ofRatio?_canonical hm

/-- The powers of ten that doubles hold exactly. -/
theorem exists_tens {k : Nat} (hk : k ≤ 22) :
    ∃ t, ofNat? (Nat.pow 10 k) = some t ∧ t.units = 10 ^ k * denominator := by
  -- There are few enough of them to be reckoned one by one.
  have hall : ∀ k ≤ 22, (ofNat? (Nat.pow 10 k)).map units = some (10 ^ k * denominator) := by
    decide +kernel
  exact Option.map_eq_some_iff.mp (hall k hk)

/-- The product of two natural numbers that doubles hold is rounded once. -/
theorem mul?_exact {x y : Magnitude} {n k : Nat} (hx : x.units = n * denominator)
    (hy : y.units = k * denominator) : mul? x y = ofRatio? (n * k) 1 := by
  have hdenominator : 0 < denominator := denominator_eq ▸ Nat.two_pow_pos _
  have hsquare : 0 < denominator * denominator := Nat.mul_pos hdenominator hdenominator
  rw [mul?, hx, hy, Nat.mul_mul_mul_comm, ← ofRatio?_mul hsquare (n * k) 1, Nat.one_mul]

/-- The quotient of two natural numbers that doubles hold is rounded once. -/
theorem div?_exact {x y : Magnitude} {n k : Nat} (hx : x.units = n * denominator)
    (hy : y.units = k * denominator) : div? x y = ofRatio? n k := by
  have hdenominator : 0 < denominator := denominator_eq ▸ Nat.two_pow_pos _
  rw [div?, hx, hy, ofRatio?_mul hdenominator]

/-- Where doubles hold the digits and the power of ten, the result alone is rounded. -/
theorem shift?_exact {x : Magnitude} {n : Nat} (hn : n ≠ 0) (hx : x.units = n * denominator)
    {exponent : Int} (hlow : -22 ≤ exponent) (hhigh : exponent ≤ 22) :
    x.shift? exponent = ofDecimal? n exponent := by
  have hdenominator : 0 < denominator := denominator_eq ▸ Nat.two_pow_pos _
  have hmax : maxTens = 308 := rfl
  have hzero : x.significand ≠ 0 := by
    intro h
    rw [units, h, Nat.zero_mul] at hx
    exact Nat.ne_of_lt (Nat.mul_pos (Nat.pos_of_ne_zero hn) hdenominator) hx
  rw [shift?, if_neg hzero, if_neg (by omega), ofDecimal?_eq hn]
  by_cases hsign : 0 ≤ exponent
  · obtain ⟨t, ht, hunits⟩ := exists_tens (k := exponent.toNat) (by omega)
    rw [if_pos hsign, ht, Option.bind_some, mul?_exact hx hunits,
      show (-exponent).toNat = 0 by omega, Nat.pow_zero]
  · obtain ⟨t, ht, hunits⟩ := exists_tens (k := (-exponent).toNat) (by omega)
    -- So few places take one division.
    have hsteps : ((-exponent).toNat - 1) / maxTens = 0 := Nat.div_eq_of_lt (by omega)
    rw [if_neg hsign]
    dsimp only
    rw [hsteps, lower?, Option.bind_some, Nat.zero_mul, Nat.sub_zero, ht, Option.bind_some,
      div?_exact hx hunits, show exponent.toNat = 0 by omega, Nat.pow_zero, Nat.mul_one]

/-- With more digits the result may be a neighbour: 99.99999999999999 comes to 100. -/
example : (ofNat? 9999999999999999).bind (shift? · (-14)) = ofNat? 100 := by decide +kernel

end Dashboard.Magnitude
