import Dashboard.Text.Sigma
import Mathlib.Data.List.Count
import Mathlib.Data.List.Infix
import Mathlib.Data.List.TakeWhile
/-!
# Parts of texts in lower case

A part of a text is in lower case what it is alone, but for the forms of its sigmas.

* `occursIn_iff` — what it means to occur in a text.
* `lowerFrom_between` — the lower case of a text in three parts.
* `KeepsForms.isInfix` — where its sigmas keep their forms, the lower case of a part occurs in that
  of the text.
* `isSettled_iff` — it occurs in that of every text if and only if the part is settled.
-/

namespace Dashboard.Text

variable {before before' after after' cs part xs ys : List Char}

/-- A part occurs where its characters stand together. -/
theorem occursIn_iff : occursIn part cs = true ↔ part <:+: cs := by
  induction cs with
  | nil => rw [occursIn, List.isEmpty_iff, List.infix_nil]
  | cons c cs ih =>
    rw [occursIn, Bool.or_eq_true, List.isPrefixOf_iff_prefix, ih, List.infix_cons_iff]

theorem containsText_iff {whole part : String} :
    containsText whole part = true ↔ part.toList <:+: whole.toList := occursIn_iff

/-! ### Neighbours -/

/-- Characters that are passed over do not count. -/
theorem meetsCased_append_of_passed (h : ∀ c ∈ xs, isPassedOver c = true) :
    meetsCased (xs ++ ys) = meetsCased ys := by
  rw [meetsCased, meetsCased, List.dropWhile_append_of_pos h]

theorem meetsCased_of_passed (h : ∀ c ∈ xs, isPassedOver c = true) : meetsCased xs = false := by
  rw [meetsCased, List.dropWhile_eq_nil_iff.mpr h]

/-- Behind a character that is not passed over nothing counts. -/
theorem meetsCased_append_of_exists (h : ∃ c ∈ xs, isPassedOver c = false) :
    meetsCased (xs ++ ys) = meetsCased xs := by
  have hdrop : xs.dropWhile isPassedOver ≠ [] := fun hnil => by
    obtain ⟨c, hc, hpassed⟩ := h
    have hall := List.dropWhile_eq_nil_iff.mp hnil c hc
    rw [hpassed] at hall
    cases hall
  obtain ⟨c, rest, hcons⟩ := List.exists_cons_of_ne_nil hdrop
  rw [meetsCased, meetsCased, List.dropWhile_append, hcons]
  rfl

/-- A character with case that is met is met whatever stands behind it. -/
theorem meetsCased_append_of_meetsCased (h : meetsCased xs = true) :
    meetsCased (xs ++ ys) = true := by
  by_cases hexists : ∃ c ∈ xs, isPassedOver c = false
  · rw [meetsCased_append_of_exists hexists, h]
  · have hpassed : ∀ c ∈ xs, isPassedOver c = true := by simpa using hexists
    rw [meetsCased_of_passed hpassed] at h
    cases h

theorem isPassedOver_sigma : isPassedOver 'Σ' = false := by decide +kernel

/-- No sigma is among characters that are passed over. -/
theorem sigma_not_mem (h : ∀ c ∈ xs, isPassedOver c = true) : 'Σ' ∉ xs := fun hmem => by
  cases isPassedOver_sigma.symm.trans (h 'Σ' hmem)

/-- Beyond a sigma nothing counts. -/
theorem meetsCased_append_sigma (xs ys : List Char) :
    meetsCased (xs ++ 'Σ' :: ys) = meetsCased (xs ++ ['Σ']) := by
  have hsigma : ∃ c ∈ xs ++ ['Σ'], isPassedOver c = false :=
    ⟨'Σ', List.mem_append_right _ List.mem_cons_self, isPassedOver_sigma⟩
  rw [← meetsCased_append_of_exists hsigma, List.append_assoc]
  rfl

/-- A sigma is final if a letter stands before it and none behind it. -/
theorem sigma_eq_final_iff : sigma before after = 'ς' ↔
    meetsCased before = true ∧ meetsCased after = false := by
  rw [sigma]
  cases meetsCased before <;> cases meetsCased after <;> decide

/-- A sigma is not final if no letter stands before it, or one behind it. -/
theorem sigma_eq_inner_iff : sigma before after = 'σ' ↔
    meetsCased before = false ∨ meetsCased after = true := by
  rw [sigma]
  cases meetsCased before <;> cases meetsCased after <;> decide

/-! ### Parts -/

/-- A text is put into lower case with nothing behind it. -/
theorem lowerFrom_eq_lowerWithin : lowerFrom before cs = lowerWithin before [] cs := by
  induction cs generalizing before with
  | nil => rfl
  | cons c cs ih => rw [lowerFrom, lowerWithin, ih, List.append_nil, sigma]

/-- Of two parts the second stands behind the first, and the first before the second. -/
theorem lowerWithin_append : lowerWithin before after (xs ++ ys) =
    lowerWithin before (ys ++ after) xs ++ lowerWithin (xs.reverse ++ before) after ys := by
  -- Along `xs` the characters that are read go over to those before.
  induction xs generalizing before with
  | nil => rfl
  | cons x xs ih =>
    rw [List.cons_append, lowerWithin, lowerWithin, ih, List.append_assoc xs, List.append_assoc,
      List.reverse_cons, List.append_assoc]
    rfl

/-- The lower case of a text in three parts. -/
theorem lowerFrom_between : lowerFrom [] (xs ++ cs ++ ys) =
    lowerWithin [] (cs ++ ys) xs ++ lowerWithin xs.reverse ys cs ++
      lowerWithin (cs.reverse ++ xs.reverse) [] ys := by
  rw [lowerFrom_eq_lowerWithin, lowerWithin_append, lowerWithin_append, List.append_nil,
    List.append_nil, List.append_nil, List.reverse_append]

/-- Where each sigma has the same form, the lower case is the same. -/
theorem lowerWithin_congr
    (h : ∀ u v, cs = u ++ 'Σ' :: v →
      sigma (u.reverse ++ before) (v ++ after) = sigma (u.reverse ++ before') (v ++ after')) :
    lowerWithin before after cs = lowerWithin before' after' cs := by
  induction cs generalizing before before' with
  | nil => rfl
  | cons c cs ih =>
    -- A sigma in the rest is one in the whole, with one more character before it.
    have hrest : lowerWithin (c :: before) after cs = lowerWithin (c :: before') after' cs := by
      refine ih fun u v huv => ?_
      simpa using h (c :: u) v (congrArg (c :: ·) huv)
    rw [lowerWithin, lowerWithin, hrest]
    by_cases hc : c = 'Σ'
    · subst hc
      have hhere : sigma before (cs ++ after) = sigma before' (cs ++ after') := h [] cs rfl
      rw [if_pos rfl, if_pos rfl, hhere]
    · rw [if_neg hc, if_neg hc]

/-- A part whose sigmas keep their forms is in lower case a part of the text in lower case. -/
theorem KeepsForms.isInfix (h : KeepsForms xs.reverse ys cs) :
    lowerFrom [] cs <:+: lowerFrom [] (xs ++ cs ++ ys) := by
  have hpart : lowerWithin xs.reverse ys cs = lowerWithin [] [] cs :=
    lowerWithin_congr fun u v huv => by simpa using h u v huv
  rw [lowerFrom_between, hpart, ← lowerFrom_eq_lowerWithin]
  exact List.infix_append ..

/-! ### Settled parts -/

/-- A settled part keeps the forms of its sigmas between any other characters. -/
theorem IsSettled.keepsForms (h : IsSettled cs) (before after : List Char) :
    KeepsForms before after cs := by
  rintro u v rfl
  obtain ⟨hfirst, hlast⟩ := h u v rfl
  by_cases hu : ∀ c ∈ u, isPassedOver c = true
  · -- What follows the sigma has case, so it is no final one.
    have hcased := hfirst hu
    rw [sigma_eq_inner_iff.mpr (.inr (meetsCased_append_of_meetsCased hcased)),
      sigma_eq_inner_iff.mpr (.inr hcased)]
  · have hbefore : meetsCased (u.reverse ++ before) = meetsCased u.reverse :=
      meetsCased_append_of_exists <| by simpa using hu
    by_cases hv : ∀ c ∈ v, isPassedOver c = true
    · -- Nothing before the sigma has case, so it is no final one.
      have huncased := hlast hv
      rw [sigma_eq_inner_iff.mpr (.inl (hbefore.trans huncased)),
        sigma_eq_inner_iff.mpr (.inl huncased)]
    · -- A neighbour within the part decides on both sides.
      have hafter : meetsCased (v ++ after) = meetsCased v :=
        meetsCased_append_of_exists <| by simpa using hv
      rw [sigma, sigma, hbefore, hafter]

/-- What stands behind a sigma does not matter before it. -/
theorem lowerWithin_before_sigma (h : before = before' ∨ 'Σ' ∉ cs) :
    lowerWithin before ('Σ' :: after) cs = lowerWithin before' ('Σ' :: after') cs := by
  refine lowerWithin_congr fun u v huv => ?_
  obtain rfl := h.resolve_right fun hmem => hmem (huv ▸ List.mem_append_right _ List.mem_cons_self)
  rw [sigma, sigma, meetsCased_append_sigma v after, meetsCased_append_sigma v after']

/-- What stands before a sigma does not matter behind it. -/
theorem lowerWithin_behind_sigma (h : after = after' ∨ 'Σ' ∉ cs) :
    lowerWithin ('Σ' :: before) after cs = lowerWithin ('Σ' :: before') after' cs := by
  refine lowerWithin_congr fun u v huv => ?_
  obtain rfl := h.resolve_right fun hmem => hmem (huv ▸ List.mem_append_right _ List.mem_cons_self)
  rw [sigma, sigma, meetsCased_append_sigma _ before, meetsCased_append_sigma _ before']

/-- Around a sigma the lower case falls into two parts and the form of the sigma. -/
theorem lowerWithin_sigma {u v : List Char} : lowerWithin before after (u ++ 'Σ' :: v) =
    lowerWithin before ('Σ' :: (v ++ after)) u ++
      sigma (u.reverse ++ before) (v ++ after) ::
        lowerWithin ('Σ' :: (u.reverse ++ before)) after v := by
  rw [lowerWithin_append, lowerWithin]
  rfl

section Letters

variable {u v : List Char}

/-- Where one sigma of a part has another form, the part does not occur in lower case, unless that
    form of a sigma stands beside it. -/
theorem not_infix_of_sigma_ne (hu : xs = [] ∨ 'Σ' ∉ u) (hv : ys = [] ∨ 'Σ' ∉ v)
    (hne : sigma (u.reverse ++ xs.reverse) (v ++ ys) ≠ sigma u.reverse v)
    (hxs : sigma u.reverse v ∉ lowerWithin [] (u ++ 'Σ' :: v ++ ys) xs)
    (hys : sigma u.reverse v ∉ lowerWithin ((u ++ 'Σ' :: v).reverse ++ xs.reverse) [] ys) :
    ¬ lowerFrom [] (u ++ 'Σ' :: v) <:+: lowerFrom [] (xs ++ (u ++ 'Σ' :: v) ++ ys) := by
  intro hinfix
  have hleft : lowerWithin xs.reverse ('Σ' :: (v ++ ys)) u = lowerWithin [] ('Σ' :: v) u :=
    lowerWithin_before_sigma <| hu.imp_left (congrArg List.reverse)
  have hright : lowerWithin ('Σ' :: (u.reverse ++ xs.reverse)) ys v =
      lowerWithin ('Σ' :: u.reverse) [] v := lowerWithin_behind_sigma hv
  -- The text in lower case has one of these sigmas less than the part.
  have hcount := hinfix.sublist.count_le (sigma u.reverse v)
  rw [lowerFrom_between, lowerFrom_eq_lowerWithin, lowerWithin_sigma, lowerWithin_sigma, hleft,
    hright, List.append_nil, List.append_nil] at hcount
  simp only [List.count_append, List.count_cons_self, List.count_cons_of_ne hne,
    List.count_eq_zero_of_not_mem hxs, List.count_eq_zero_of_not_mem hys] at hcount
  omega

theorem meetsCased_letter : meetsCased ['a'] = true := by decide +kernel

theorem lowerWithin_letter : lowerWithin before after ['a'] = ['a'] := rfl

/-- Behind a letter a sigma that may be the first of a word becomes the last of one. -/
theorem not_infix_behind_letter (hu : ∀ c ∈ u, isPassedOver c = true)
    (hv : meetsCased v = false) :
    ¬ lowerFrom [] (u ++ 'Σ' :: v) <:+: lowerFrom [] (['a'] ++ (u ++ 'Σ' :: v) ++ []) := by
  have hreverse : ∀ c ∈ u.reverse, isPassedOver c = true := by simpa using hu
  have halone : sigma u.reverse v = 'σ' :=
    sigma_eq_inner_iff.mpr (.inl (meetsCased_of_passed hreverse))
  have hbehind : sigma (u.reverse ++ ['a'].reverse) (v ++ []) = 'ς' := by
    rw [sigma_eq_final_iff, meetsCased_append_of_passed hreverse, List.append_nil]
    exact ⟨meetsCased_letter, hv⟩
  refine not_infix_of_sigma_ne (.inr (sigma_not_mem hu)) (.inl rfl) ?_ ?_ ?_
  · rw [hbehind, halone]
    decide
  · rw [halone, lowerWithin_letter]
    decide
  · exact List.not_mem_nil

/-- Before a letter a sigma that may be the last of a word no longer is. -/
theorem not_infix_before_letter (hu : meetsCased u.reverse = true)
    (hv : ∀ c ∈ v, isPassedOver c = true) :
    ¬ lowerFrom [] (u ++ 'Σ' :: v) <:+: lowerFrom [] ([] ++ (u ++ 'Σ' :: v) ++ ['a']) := by
  have halone : sigma u.reverse v = 'ς' := sigma_eq_final_iff.mpr ⟨hu, meetsCased_of_passed hv⟩
  have hbefore : sigma (u.reverse ++ [].reverse) (v ++ ['a']) = 'σ' := by
    rw [sigma_eq_inner_iff, meetsCased_append_of_passed hv]
    exact .inr meetsCased_letter
  refine not_infix_of_sigma_ne (.inl rfl) (.inr (sigma_not_mem hv)) ?_ ?_ ?_
  · rw [hbefore, halone]
    decide
  · exact List.not_mem_nil
  · rw [halone, lowerWithin_letter]
    decide

end Letters

/-- A part is settled if and only if it occurs in lower case wherever it occurs. -/
theorem isSettled_iff :
    IsSettled cs ↔ ∀ before after, lowerFrom [] cs <:+: lowerFrom [] (before ++ cs ++ after) := by
  refine ⟨fun h before after => (h.keepsForms _ _).isInfix, fun h u v huv => ?_⟩
  subst huv
  refine ⟨fun hu => ?first, fun hv => ?last⟩
  case first =>
    by_contra hcased
    exact not_infix_behind_letter hu (Bool.not_eq_true _ ▸ hcased) (h ['a'] [])
  case last =>
    by_contra hcased
    exact not_infix_before_letter (Bool.not_eq_false _ ▸ hcased) hv (h [] ['a'])

end Dashboard.Text
