import Dashboard.Binary64.Grain
import Dashboard.Proofs.DoubleRounding
import Dashboard.Proofs.JsonMembers
import Dashboard.Proofs.TextEnds
/-!
# Counts that are sent as text

A count that a daemon sends as a number is read as it is, and one that it sends as text is read as a
double, which has 53 bits.

* `Magnitude.exists_nearest` — the double that is read is the one nearest to the number.
* `Binary64.two_mul_sub_nearest_le` — how far it may be off.
* `Payload.count?_spelled` — what the text of a count is read as.
* `counts_read_alike_iff` — which counts are the same in both forms.
* `spelled_count_read_short` — one that is not.
-/

namespace Dashboard

open Binary64

/-! ### The nearest double -/

namespace Binary64

variable {n : Nat}

/-- No grain is zero. -/
theorem grain_pos (n : Nat) : 0 < grain n := Nat.two_pow_pos _

/-- A multiple of the grain is not rounded. -/
theorem nearest_of_dvd (h : grain n ∣ n) : nearest n = n := by
  obtain ⟨q, hq⟩ := h
  have hround : Magnitude.roundDiv n (grain n) = q := calc
    Magnitude.roundDiv n (grain n) = Magnitude.roundDiv (q * grain n) (grain n) :=
      congrArg (Magnitude.roundDiv · (grain n)) (hq.trans (Nat.mul_comm ..))
    _ = q := Magnitude.roundDiv_mul (grain_pos n)
  rw [nearest, hround, Nat.mul_comm]
  exact hq.symm

theorem nearest_eq_iff : nearest n = n ↔ grain n ∣ n :=
  ⟨fun h => ⟨_, h.symm.trans (Nat.mul_comm ..)⟩, nearest_of_dvd⟩

/-- The nearest double is at most half a grain away. -/
theorem two_mul_sub_nearest_le (n : Nat) :
    2 * (nearest n - n) ≤ grain n ∧ 2 * (n - nearest n) ≤ grain n := by
  have hsplit : grain n * (n / grain n) + n % grain n = n := Nat.div_add_mod ..
  have hlt : n % grain n < grain n := Nat.mod_lt _ (grain_pos n)
  have hnext : (n / grain n + 1) * grain n = grain n * (n / grain n) + grain n := by
    rw [Nat.add_mul, Nat.one_mul, Nat.mul_comm]
  have hwhole : n / grain n * grain n = grain n * (n / grain n) := Nat.mul_comm ..
  unfold nearest Magnitude.roundDiv
  dsimp only
  split
  · omega
  · split
    · omega
    · split <;> omega

end Binary64

namespace Magnitude

variable {significand scale n : Nat}

/-- A significand that is halved is so many units as before. -/
theorem exists_settle? (hs : scale < maxScale) :
    ∃ m, settle? significand scale = some m ∧ m.units = significand * 2 ^ scale := by
  unfold settle?
  dsimp only
  by_cases hcarry : significand = significandBound
  · -- A significand that was rounded up to the bound is halved, and the scale makes up for it.
    have hunits : 2 ^ (precision - 1) * 2 ^ (scale + 1) = significandBound * 2 ^ scale := by
      rw [significandBound_eq, show precision = 53 from rfl, ← Nat.pow_add, ← Nat.pow_add]
      congr 1
      omega
    rw [if_pos hcarry, hcarry]
    refine ⟨_, if_pos hs, ?_⟩
    rw [units, Nat.pow_eq, Nat.pow_eq]
    exact hunits
  · rw [if_neg hcarry, if_pos (Nat.le_of_lt hs)]
    exact ⟨_, rfl, rfl⟩

/-- The units of a grain of a number of 53 bits or more are its scale. -/
theorem grain_mul_denominator (h : 52 ≤ n.log2) :
    2 ^ (n.log2 + 1022) = grain n * denominator := by
  rw [grain, denominator_eq, ← Nat.pow_add, show denominatorBits = 1074 from rfl]
  congr 1
  omega

/-- The double that a count is read as is the one nearest to it. -/
theorem exists_nearest (h0 : n ≠ 0) (hn : n ≤ Count.max) :
    ∃ m, ofNat? n = some m ∧ m.floor = nearest n := by
  have hlog : n.log2 < 64 := by
    rw [Nat.log2_lt h0]
    exact Nat.lt_of_le_of_lt hn (by decide)
  by_cases hbits : n.log2 < 52
  · -- With fewer bits the double is the number, and the grain is one.
    have hlt : n < significandBound := by
      rw [significandBound_eq]
      exact (Nat.log2_lt h0).mp (by omega)
    have hgrain : grain n = 1 := by rw [grain, Nat.sub_eq_zero_of_le (by omega), Nat.pow_zero]
    rw [nearest_of_dvd (hgrain ▸ Nat.one_dvd n)]
    obtain ⟨m, hm, hunits⟩ := exists_ofNat? h0 hlt
    exact ⟨m, hm, floor_of_units hunits⟩
  · -- With 53 bits or more the double is so many grains, which may be one more than 53 bits hold.
    have hgrain := grain_mul_denominator (Nat.le_of_not_lt hbits)
    have hpos : 0 < denominator := denominator_eq ▸ Nat.two_pow_pos _
    have hround : roundDiv (n * denominator) (2 ^ (n.log2 + 1022)) = roundDiv n (grain n) := by
      rw [hgrain, roundDiv_mul_mul hpos]
    have hscale : n.log2 + 1022 < maxScale := by
      rw [show maxScale = 2045 from rfl]
      omega
    obtain ⟨m, hm, hunits⟩ := @exists_settle? (roundDiv n (grain n)) _ hscale
    refine ⟨m, ?_, ?_⟩
    · simp only [ofNat?, ofRatio?, Nat.div_one, Nat.one_mul, Nat.pow_eq]
      rw [scaleFor_mul_denominator h0, hround, hm]
    · rw [floor, hunits, hgrain, ← Nat.mul_assoc, Nat.mul_div_cancel _ hpos, nearest]

end Magnitude

/-! ### Counts in both forms -/

variable {n : Nat} {before after : String}

/-- The double that the digits of a count are read as gives the nearest double as a count, or the
    largest count if that is less. -/
theorem Reading.count?_ofDecimal (hn : n ≤ Count.max) :
    (ofDecimal false n 0).count? Count.max = some (min (nearest n) Count.max) := by
  have hmagnitude : ∃ m, Magnitude.ofDecimal? n 0 = some m ∧ m.floor = nearest n := by
    by_cases h0 : n = 0
    · subst h0
      exact ⟨Magnitude.zero, rfl, by decide +kernel⟩
    · rw [Magnitude.ofDecimal?_zero h0]
      exact Magnitude.exists_nearest h0 hn
  obtain ⟨m, hm, hfloor⟩ := hmagnitude
  rw [ofDecimal, hm, ← hfloor]
  rfl

/-- The text of a count, with white space around it, is read as the nearest double, or as the
    largest count if that is less. -/
theorem Payload.count?_spelled (hn : n ≤ Count.max) (hb : Text.isBlankText before = true)
    (ha : Text.isBlankText after = true) :
    count? (.string (before ++ toString n ++ after)) = some (min (nearest n) Count.max) := by
  rw [count?, Text.trim_between hb ha, readDouble?_toString, Option.bind_some,
    Reading.count?_ofDecimal hn]

/-- Cut at the largest count, the nearest double is the count itself if the count is one of the
    doubles or the largest count. -/
theorem min_nearest_eq_iff (hn : n ≤ Count.max) :
    min (nearest n) Count.max = n ↔ grain n ∣ n ∨ n = Count.max := by
  constructor
  · intro h
    by_cases hcut : nearest n ≤ Count.max
    · rw [Nat.min_eq_left hcut] at h
      exact .inl (nearest_eq_iff.mp h)
    · rw [Nat.min_eq_right (Nat.le_of_not_le hcut)] at h
      exact .inr h.symm
  · rintro (h | rfl)
    · rw [nearest_of_dvd h, Nat.min_eq_left hn]
    · decide +kernel

/-- A count that leads a field is read as it is if it stands there as a number. Its text, with white
    space around it, is read as the nearest double, cut at the largest count, which is half a grain
    away at most; so the two are read alike if and only if the count is a multiple of its grain, or
    the largest. -/
theorem counts_read_alike_iff {ms : Json.Members} {names : Aliases} {name : String}
    (hl : ms.Leads names name) (hn : n ≤ Count.max) (hb : Text.isBlankText before = true)
    (ha : Text.isBlankText after = true) :
    let whole := Json.object (ms.put name (.nat n))
    let spelled := Json.object (ms.put name (.string (before ++ toString n ++ after)))
    whole.countOf? names = some n ∧
      spelled.countOf? names = some (min (nearest n) Count.max) ∧
      (2 * (nearest n - n) ≤ grain n ∧ 2 * (n - nearest n) ≤ grain n) ∧
      (spelled.countOf? names = whole.countOf? names ↔ grain n ∣ n ∨ n = Count.max) := by
  intro whole spelled
  have hwhole : whole.countOf? names = some n := by
    rw [Json.countOf?, Json.field?_put hl rfl, Option.bind_some, Json.nat, Payload.count?,
      if_pos (Int.natCast_nonneg n), Int.toNat_natCast]
  -- The text is read as the nearest double, and that is cut to what a count holds.
  have hspelled : spelled.countOf? names = some (min (nearest n) Count.max) := by
    rw [Json.countOf?, Json.field?_put hl rfl, Option.bind_some, Payload.count?_spelled hn hb ha]
  refine ⟨hwhole, hspelled, two_mul_sub_nearest_le n, ?_⟩
  rw [hspelled, hwhole, Option.some_inj]
  exact min_nearest_eq_iff hn

/-- A multiple of its grain under the second name of a field, behind a null. -/
theorem counts_read_alike_iff_second :
    let ms : Json.Members := [("tokenLimit", .null)]
    let names := ["tokenLimit", "limit"]
    (ms.Leads names "limit" ∧ 9007199254740994 ≤ Count.max ∧ Text.isBlankText " " = true) ∧
      (Json.object (ms.put "limit" (.string " 9007199254740994 "))).countOf? names =
        some 9007199254740994 := by
  intro ms names
  have hleads : ms.Leads names "limit" := ⟨["tokenLimit"], [], rfl, by decide +zetaReduce⟩
  obtain ⟨hwhole, -, -, halike⟩ := @counts_read_alike_iff 9007199254740994 " " " " ms names "limit"
    hleads (by decide) (by decide) (by decide)
  refine ⟨⟨hleads, by decide, by decide⟩, ?_⟩
  rw [← hwhole]
  exact halike.mpr (.inl (by decide +kernel))

/-- `2 ^ 53 + 1` is read as it is from a number and as one less from its text. -/
theorem spelled_count_read_short :
    (Json.object [("n", .nat 9007199254740993)]).countOf? ["n"] = some 9007199254740993 ∧
      (Json.object [("n", .string "9007199254740993")]).countOf? ["n"] = some 9007199254740992 := by
  decide +kernel

end Dashboard
