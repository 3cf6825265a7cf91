import Dashboard.Figure.Scale
import Dashboard.Proofs.NumberText
/-!
# Numbers on a scale

A number is shown in the first unit in which its rounded figure is below the step. Where one unit
hands over to the next, a figure of a full step reads as one of the next unit, so no text denotes
less than that of a smaller number.

* `roundsTo_iff` — rounding half up is told without a division.
* `pick`, `inUnits_eq` — the unit that a number is shown in.
* `ten_le_nearest_pick`, `amount_le_amount` — the figure in that unit, and what it denotes.
* `Scale.read?_text` — the text denotes what the figure does.
* `Scale.showsRounded_text`, `counts_and_sizes_show_rounded` — the texts on a scale.
-/

namespace Dashboard.Figure

/-! ### Rounding -/

section

variable {n m unit step t : Nat}

/-- The figure of a number in a unit, however large it is. -/
def nearest (n unit : Nat) : Nat := (n * 10 + unit / 2) / unit

/-- A number is rounded half up to one figure only. -/
theorem roundsTo_iff (hunit : 0 < unit) : RoundsTo n unit t ↔ nearest n unit = t := by
  have hsucc : (t + 1) * unit = t * unit + unit := Nat.succ_mul t unit
  rw [nearest, Nat.div_eq_iff hunit, RoundsTo]
  omega

/-- A larger number has no smaller figure. -/
theorem nearest_le_nearest (hle : n ≤ m) (unit : Nat) : nearest n unit ≤ nearest m unit :=
  Nat.div_le_div_right (by omega)

/-- In units of one nothing is rounded. -/
theorem nearest_one (n : Nat) : nearest n 1 = n * 10 := by
  rw [nearest, Nat.div_one]
  omega

/-- In units of more than ten no figure is too large for a count. -/
theorem nearest_le_max (hunit : 10 < unit) (hmost : n ≤ Count.max) : nearest n unit ≤ Count.max := by
  have hmax : 5 ≤ Count.max := by decide
  obtain ⟨k, rfl⟩ : ∃ k, unit = 11 + k := ⟨unit - 11, by omega⟩
  have hk : k ≤ k * Count.max := Nat.le_mul_of_pos_right k (by omega)
  have hmul : (11 + k) * Count.max = 11 * Count.max + k * Count.max := Nat.add_mul ..
  refine Nat.div_le_of_le_mul ?_
  omega

/-- The figure that is reckoned within 64 bits is the exact one. -/
theorem tenths_eq_nearest (hunit : 10 < unit) (hmost : n ≤ Count.max) :
    tenths n unit = nearest n unit :=
  Nat.min_eq_left (nearest_le_max hunit hmost)

/-- What fills the step in one unit is at least one of the next unit. -/
theorem ten_le_nearest_mul (hunit : 0 < unit) (hstep : 0 < step)
    (hfull : step * 10 ≤ nearest n unit) : 10 ≤ nearest n (unit * step) := by
  have hlow := ((roundsTo_iff hunit).mpr (rfl : nearest n unit = _)).1
  have hfull : step * 10 * unit ≤ nearest n unit * unit := Nat.mul_le_mul_right unit hfull
  have hnext : step * 10 * unit = 10 * (unit * step) := by ac_rfl
  have hle : unit ≤ unit * step := Nat.le_mul_of_pos_right unit hstep
  rw [nearest, Nat.le_div_iff_mul_le (Nat.mul_pos hunit hstep)]
  omega

end

/-! ### The unit that a number is shown in -/

/-- The first of some units in which the figure of a number is below the step, or the last one. -/
def pick (n step : Nat) : Nat × String → List (Nat × String) → Nat × String
  | u, [] => u
  | u, v :: rest => if nearest n u.1 < step * 10 then u else pick n step v rest

section

variable {n m step : Nat} {u : Nat × String} {rest : List (Nat × String)}

/-- Where the unit stands that is picked: all before it are full, and it is not, unless it comes
last. -/
theorem pick_split (n step : Nat) (u : Nat × String) (rest : List (Nat × String)) :
    ∃ before after, u :: rest = before ++ pick n step u rest :: after ∧
      (∀ v ∈ before, step * 10 ≤ nearest n v.1) ∧
      (after ≠ [] → nearest n (pick n step u rest).1 < step * 10) := by
  induction rest generalizing u with
  | nil => exact ⟨[], [], rfl, List.forall_mem_nil _, fun h => absurd rfl h⟩
  | cons v rest ih =>
    by_cases hlt : nearest n u.1 < step * 10
    · have hpick : pick n step u (v :: rest) = u := if_pos hlt
      rw [hpick]
      exact ⟨[], v :: rest, rfl, List.forall_mem_nil _, fun _ => hlt⟩
    · -- The figure is too large in the first unit, so it is passed over.
      have hpick : pick n step u (v :: rest) = pick n step v rest := if_neg hlt
      obtain ⟨before, after, heq, hfull, hlast⟩ := ih v
      rw [hpick]
      refine ⟨u :: before, after, congrArg (u :: ·) heq, ?_, hlast⟩
      exact List.forall_mem_cons.mpr ⟨Nat.le_of_not_lt hlt, hfull⟩

/-- The unit that is picked is one of those at hand. -/
theorem pick_mem (n step : Nat) (u : Nat × String) (rest : List (Nat × String)) :
    pick n step u rest ∈ u :: rest := by
  obtain ⟨before, after, heq, -⟩ := pick_split n step u rest
  rw [heq]
  exact List.mem_append_right _ List.mem_cons_self

/-- The figure in the unit that is picked is what a number is shown by. -/
theorem inUnits_eq (hmost : n ≤ Count.max) (hunits : ∀ v ∈ u :: rest, 10 < v.1) :
    inUnits n step (u :: rest) =
      decimal (nearest n (pick n step u rest).1) ++ (pick n step u rest).2 := by
  obtain ⟨hu, hrest⟩ := List.forall_mem_cons.mp hunits
  have htenths := tenths_eq_nearest hu hmost
  induction rest generalizing u with
  | nil => rw [inUnits, pick, htenths]
  | cons v rest ih =>
    obtain ⟨hv, hbehind⟩ := List.forall_mem_cons.mp hrest
    rw [inUnits, pick, htenths]
    split
    · rfl
    · exact ih hrest hv hbehind (tenths_eq_nearest hv hmost)

/-- Each unit is the step times the one before. -/
abbrev Climbs (step : Nat) (units : List (Nat × String)) : Prop :=
  units.IsChain fun u v => v.1 = u.1 * step

theorem Climbs.cons {v : Nat × String} (h : Climbs step (u :: v :: rest)) :
    v.1 = u.1 * step ∧ Climbs step (v :: rest) := List.isChain_cons_cons.mp h

/-- Behind a full unit the figure is at least one. -/
theorem ten_le_nearest_pick {v : Nat × String} (hu : 0 < u.1) (hstep : 0 < step)
    (hclimbs : Climbs step (u :: v :: rest)) (hfull : step * 10 ≤ nearest n u.1) :
    10 ≤ nearest n (pick n step v rest).1 := by
  obtain ⟨hv, hbehind⟩ := hclimbs.cons
  have hone : 10 ≤ nearest n v.1 := hv ▸ ten_le_nearest_mul hu hstep hfull
  -- A later unit is picked only where the one before it is full.
  induction rest generalizing u v with
  | nil => exact hone
  | cons w rest ih =>
    rw [pick]
    split
    · exact hone
    · rename_i hlt
      have hvpos : 0 < v.1 := hv ▸ Nat.mul_pos hu hstep
      obtain ⟨hw, hlast⟩ := hbehind.cons
      have hnext : 10 ≤ nearest n w.1 :=
        hw ▸ ten_le_nearest_mul hvpos hstep (Nat.le_of_not_lt hlt)
      exact ih hvpos hbehind (Nat.le_of_not_lt hlt) hw hlast hnext

/-- The unit that is picked is no smaller than the first one. -/
theorem size_le_pick (hstep : 0 < step) (hclimbs : Climbs step (u :: rest)) :
    u.1 ≤ (pick n step u rest).1 := by
  induction rest generalizing u with
  | nil => exact Nat.le_refl _
  | cons v rest ih =>
    obtain ⟨hv, hclimbs⟩ := hclimbs.cons
    rw [pick]
    split
    · exact Nat.le_refl _
    · calc
        u.1 ≤ u.1 * step := Nat.le_mul_of_pos_right _ hstep
        _ = v.1 := hv.symm
        _ ≤ (pick n step v rest).1 := ih hclimbs

/-- What a number denotes in the unit that is picked, in tenths of one. -/
def amount (n step : Nat) (u : Nat × String) (rest : List (Nat × String)) : Nat :=
  nearest n (pick n step u rest).1 * (pick n step u rest).1

/-- A larger number never denotes less. At a hand-over the figure of the smaller number is below the
step, and that of the larger one is at least one of the next unit. -/
theorem amount_le_amount (hle : n ≤ m) (hstep : 0 < step) (hu : 0 < u.1)
    (hclimbs : Climbs step (u :: rest)) : amount n step u rest ≤ amount m step u rest := by
  induction rest generalizing u with
  | nil => exact Nat.mul_le_mul_right _ (nearest_le_nearest hle _)
  | cons v rest ih =>
    have hmono := nearest_le_nearest hle u.1
    obtain ⟨hv, hbehind⟩ := hclimbs.cons
    have hvpos : 0 < v.1 := hv ▸ Nat.mul_pos hu hstep
    unfold amount
    rw [pick, pick]
    by_cases hm : nearest m u.1 < step * 10
    · rw [if_pos (Nat.lt_of_le_of_lt hmono hm), if_pos hm]
      exact Nat.mul_le_mul_right _ hmono
    rw [if_neg hm]
    -- The larger number is told in a later unit, and the smaller one in this one or in a later one.
    by_cases hn : nearest n u.1 < step * 10
    · rw [if_pos hn]
      have hone := ten_le_nearest_pick hu hstep hclimbs (Nat.le_of_not_lt hm)
      have hfull : step * 10 * u.1 = 10 * v.1 := by rw [hv]; ac_rfl
      calc
        nearest n u.1 * u.1 ≤ step * 10 * u.1 := Nat.mul_le_mul_right _ (Nat.le_of_lt hn)
        _ = 10 * v.1 := hfull
        _ ≤ nearest m (pick m step v rest).1 * (pick m step v rest).1 :=
          Nat.mul_le_mul hone (size_le_pick hstep hbehind)
    · rw [if_neg hn]
      exact ih hvpos hbehind

end

/-! ### Figures in text -/

/-- A number below ten is written as one digit. -/
theorem toList_toString_of_lt_ten {d : Nat} (hd : d < 10) :
    (toString d).toList = [d.digitChar] := by
  rw [Nat.toString_eq_ofList_toDigits, String.toList_ofList, Nat.toDigits_of_lt_base hd]

/-- A figure of at least one has the digits of its tenths, with a point before the last one. -/
theorem digits_of_ten_le {t : Nat} (ht : 10 ≤ t) :
    (toString (t / 10)).toList ++ [(t % 10).digitChar] = (toString t).toList := by
  simp only [Nat.toString_eq_ofList_toDigits, String.toList_ofList]
  rw [Nat.toDigits_of_base_le (by decide) ht]

namespace Scale

variable {s : Scale} {n : Nat}

/-- A number that is shown as it is denotes itself. -/
theorem read?_whole (s : Scale) (n : Nat) : s.read? (toString n ++ s.ones) = some (n * 10) := by
  obtain ⟨htake, hdrop⟩ := span_toString n fun c hc => (s.head_ones c hc).1
  unfold read?
  rw [String.toList_append, htake, hdrop]
  split
  · rename_i heq
    have hpoint : '.' ∈ s.ones.toList.head? := by rw [heq]; rfl
    exact absurd rfl (s.head_ones _ hpoint).2
  · rw [if_pos rfl, allDigits?_toString, Option.map_some]

/-- The unit of a name. -/
theorem find?_units {u : Nat × String} (hu : u ∈ s.units) :
    s.units.find? (·.2.toList = u.2.toList) = some u := by
  have hname : ∀ v ∈ s.units, v.2 = u.2 → v = u :=
    fun v hv heq => List.inj_on_of_nodup_map s.nodup_names hv hu heq
  cases hfind : s.units.find? (·.2.toList = u.2.toList) with
  | none => simpa using List.find?_eq_none.mp hfind u hu
  | some v =>
    have heq : v.2 = u.2 := String.toList_inj.mp (by simpa using List.find?_some hfind)
    rw [hname v (List.mem_of_find?_eq_some hfind) heq]

/-- A figure of at least one denotes its tenths of the unit. -/
theorem read?_decimal {u : Nat × String} (hu : u ∈ s.units) {t : Nat} (ht : 10 ≤ t) :
    s.read? (decimal t ++ u.2) = some (t * u.1) := by
  have htenth : (toString (t % 10)).toList = [(t % 10).digitChar] :=
    toList_toString_of_lt_ten (Nat.mod_lt t (by decide))
  have htext : (decimal t ++ u.2).toList =
      (toString (t / 10)).toList ++ '.' :: (t % 10).digitChar :: u.2.toList := by
    rw [decimal, String.toList_append, String.toList_append, String.toList_append, htenth]
    simp
  -- The digits of the whole part end at the point.
  have hpoint : ∀ c ∈ ('.' :: (t % 10).digitChar :: u.2.toList).head?, c.isDigit = false := by
    rintro _ ⟨⟩
    decide
  obtain ⟨htake, hdrop⟩ := span_toString (t / 10) hpoint
  have hfigure : Reading.allDigits? ((toString (t / 10)).toList ++ [(t % 10).digitChar]) = some t := by
    rw [digits_of_ten_le ht, allDigits?_toString]
  unfold read?
  rw [htext, htake, hdrop]
  show ((Reading.allDigits? ((toString (t / 10)).toList ++ [(t % 10).digitChar])).bind fun figure =>
    (s.units.find? (·.2.toList = u.2.toList)).bind fun v => some (figure * v.1)) = _
  rw [hfigure, find?_units hu, Option.bind_some, Option.bind_some]

/-! ### The texts on a scale -/

theorem step_pos (s : Scale) : 0 < s.step := Nat.lt_trans (by decide) s.ten_lt_step

/-- All units are larger than ten. -/
theorem ten_lt_of_mem (s : Scale) : ∀ u ∈ s.units, 10 < u.1 := by
  have hall {u : Nat × String} {units : List (Nat × String)} (hu : 0 < u.1)
      (hclimbs : Climbs s.step (u :: units)) : ∀ v ∈ units, 10 < v.1 := by
    induction units generalizing u with
    | nil => exact List.forall_mem_nil _
    | cons v units ih =>
      obtain ⟨hv, hclimbs⟩ := hclimbs.cons
      have hlt : 10 < v.1 := hv ▸ Nat.lt_of_lt_of_le s.ten_lt_step (Nat.le_mul_of_pos_left _ hu)
      exact List.forall_mem_cons.mpr ⟨hlt, ih (Nat.lt_trans (by decide) hlt) hclimbs⟩
  exact hall Nat.one_pos s.climbs

/-- The unit that a number is shown in, a number that is shown as it is in units of one. -/
def unitFor (s : Scale) (n : Nat) : Nat × String := pick n s.step (1, s.ones) s.units

/-- Below the first step a number is shown in units of one. -/
theorem unitFor_of_lt (hn : n < s.step) : s.unitFor n = (1, s.ones) := by
  obtain ⟨u, rest, hunits⟩ := List.exists_cons_of_ne_nil s.units_ne_nil
  rw [unitFor, hunits, pick, if_pos (by rw [nearest_one]; omega)]

theorem unitFor_of_le (hn : s.step ≤ n) {u : Nat × String} {rest : List (Nat × String)}
    (hunits : s.units = u :: rest) : s.unitFor n = pick n s.step u rest := by
  rw [unitFor, hunits, pick, if_neg (by rw [nearest_one]; omega)]

/-- From the step on a number is shown with one decimal, in a unit in which it is at least one. -/
theorem text_of_le (hn : s.step ≤ n) (hmost : n ≤ Count.max) :
    s.unitFor n ∈ s.units ∧ 10 ≤ nearest n (s.unitFor n).1 ∧
      s.text n = decimal (nearest n (s.unitFor n).1) ++ (s.unitFor n).2 := by
  obtain ⟨u, rest, hunits⟩ := List.exists_cons_of_ne_nil s.units_ne_nil
  have hlarge := s.ten_lt_of_mem
  have hclimbs := s.climbs
  rw [unitFor_of_le hn hunits, text, if_neg (Nat.not_lt.mpr hn)]
  rw [hunits] at hlarge hclimbs ⊢
  refine ⟨pick_mem n s.step u rest, ?_, inUnits_eq hmost hlarge⟩
  have hfull : s.step * 10 ≤ nearest n 1 := by rw [nearest_one]; omega
  exact ten_le_nearest_pick Nat.one_pos s.step_pos hclimbs hfull

/-- The text of a number denotes the figure in its unit. -/
theorem read?_text (hmost : n ≤ Count.max) :
    s.read? (s.text n) = some (amount n s.step (1, s.ones) s.units) := by
  show s.read? (s.text n) = some (nearest n (s.unitFor n).1 * (s.unitFor n).1)
  rcases Nat.lt_or_ge n s.step with hn | hn
  · rw [unitFor_of_lt hn, text, if_pos hn, read?_whole, nearest_one, Nat.mul_one]
  · obtain ⟨hmem, hten, htext⟩ := text_of_le hn hmost
    rw [htext, read?_decimal hmem hten]

/-- A number makes a text whatever stands behind it. -/
theorem toString_append_ne_empty (n : Nat) (behind : String) : toString n ++ behind ≠ "" := by
  intro h
  have hnil := congrArg String.toList h
  rw [String.toList_append, Nat.toString_eq_ofList_toDigits, String.toList_ofList] at hnil
  exact Nat.toDigits_ne_nil (List.append_eq_nil_iff.mp hnil).1

/-- Every count has a text. -/
theorem text_ne_empty (hmost : n ≤ Count.max) : s.text n ≠ "" := by
  rcases Nat.lt_or_ge n s.step with hn | hn
  · rw [text, if_pos hn]
    exact toString_append_ne_empty n s.ones
  · rw [(text_of_le hn hmost).2.2, decimal, String.append_assoc, String.append_assoc]
    exact toString_append_ne_empty _ _

/-- On every scale a number is shown as it is or rounded half up in a unit that suits it. -/
theorem showsRounded_text (s : Scale) (hmost : n ≤ Count.max) : s.ShowsRounded s.text n where
  whole hn := by
    rw [text, if_pos hn]
    exact ⟨rfl, read?_whole s n⟩
  scaled hn := by
    obtain ⟨u, rest, hunits⟩ := List.exists_cons_of_ne_nil s.units_ne_nil
    obtain ⟨hmem, hten, htext⟩ := text_of_le hn hmost
    -- Before the unit that is picked stand those in which the figure would be too large.
    obtain ⟨before, after, hsplit, hfull, hlast⟩ := pick_split n s.step u rest
    have hpos {v : Nat × String} (hv : v ∈ s.units) : 0 < v.1 :=
      Nat.lt_trans (by decide) (s.ten_lt_of_mem v hv)
    rw [← hunits, ← unitFor_of_le hn hunits] at hsplit
    rw [← unitFor_of_le hn hunits] at hlast
    refine ⟨before, s.unitFor n, after, nearest n (s.unitFor n).1, hsplit, htext, ?_,
      (roundsTo_iff (hpos hmem)).mpr rfl, hten, ?_, hlast⟩
    · rw [htext, read?_decimal hmem hten]
    · intro v hv t' ht'
      have hvpos := hpos (hsplit ▸ List.mem_append_left _ hv)
      exact (roundsTo_iff hvpos).mp ht' ▸ hfull v hv
  uncut u hu := nearest_le_max (s.ten_lt_of_mem u hu) hmost
  ne_empty := text_ne_empty hmost
  ordered later hle hlater :=
    ⟨_, _, read?_text hmost, read?_text hlater,
      amount_le_amount hle s.step_pos Nat.one_pos s.climbs⟩

end Scale

/-- A large count is written on the scale of counts. -/
theorem abbreviated_eq_text : abbreviated = Scale.counts.text := by
  funext n
  show _ = if n < 1000 then toString n ++ "" else inUnits n 1000 countUnits
  rw [String.append_empty, abbreviated]

theorem bytes_eq_text : bytes = Scale.bytes.text := rfl

/-- Counts and sizes are shown as they are or rounded half up in the first unit that suits them, and
a larger one never denotes less. -/
theorem counts_and_sizes_show_rounded {n : Nat} (hmost : n ≤ Count.max) :
    Scale.counts.ShowsRounded abbreviated n ∧ Scale.bytes.ShowsRounded bytes n := by
  rw [abbreviated_eq_text, bytes_eq_text]
  exact ⟨Scale.counts.showsRounded_text hmost, Scale.bytes.showsRounded_text hmost⟩

/-- The last count that reads in k and the first that reads in M, and the largest size of all. -/
theorem counts_and_sizes_show_rounded_at_hand_over :
    (999949 ≤ Count.max ∧ Scale.counts.read? (abbreviated 999949) = some 9999000 ∧
      ∃ a b, Scale.counts.read? (abbreviated 999949) = some a ∧
        Scale.counts.read? (abbreviated 999950) = some b ∧ a ≤ b) ∧
    (Count.max ≤ Count.max ∧ bytes Count.max ≠ "") := by
  have hmost : 999949 ≤ Count.max := by decide
  have hcounts := (counts_and_sizes_show_rounded hmost).1
  refine ⟨⟨hmost, by decide +kernel, hcounts.ordered 999950 (by decide) (by decide)⟩,
    Nat.le_refl _, ?_⟩
  exact (counts_and_sizes_show_rounded (Nat.le_refl Count.max)).2.ne_empty

end Dashboard.Figure
