import Dashboard.Proofs.CountReading
import Dashboard.Proofs.Rankings
import Dashboard.Slop.Severity
import Mathlib.Data.List.Count
import Mathlib.Data.List.Nodup
/-!
# Which severities are counted

Counts of severities are read by a rule of their own, which takes integers and digits only, and they
are told for each member of an object and not for each severity.

* `Payload.count?_of_readCount?` — what any other count is read as from such digits.
* `Slop.Statistics.share?_eq_count?_iff` — the values that both rules read alike.
* `Slop.Statistics.isStableSort_bySeverity` — the counts as they are told,
  `Slop.Statistics.filter_bySeverity` — those of one severity.
* `Slop.Statistics.ascending_bySeverity_iff` — when each severity has one count.
* `Slop.Statistics.tells_iff` — when each severity is told as it should be.
* `Slop.Statistics.severities_are_told_iff` — all of this.
* `Slop.Statistics.halves_are_untold` — an object of which nothing is told.
-/

namespace Dashboard

open Binary64

/-! ### Digits -/

section Digits

variable {s : String} {n : ℕ}

/-- A text that spells a count consists of digits, with or without a sign before them. -/
theorem exists_digits_of_readCount? (h : readCount? s = some n) :
    ∃ ds, ds ≠ [] ∧ (∀ c ∈ ds, c.isDigit = true) ∧ numberOf ds = n ∧ n ≤ Count.max ∧
      (s.toList = ds ∨ s.toList = '+' :: ds) := by
  -- What is read of the digits, with a sign in front or without.
  have hdigits {ds : List Char} (h : ((Reading.allDigits? ds).bind fun m =>
      (guard (m ≤ Count.max) : Option Unit).bind fun _ => some m) = some n) :
      ds ≠ [] ∧ (∀ c ∈ ds, c.isDigit = true) ∧ numberOf ds = n ∧ n ≤ Count.max := by
    obtain ⟨m, hm, hguard⟩ := Option.bind_eq_some_iff.mp h
    obtain ⟨u, hle, hmn⟩ := Option.bind_eq_some_iff.mp hguard
    obtain rfl := Option.some.inj hmn
    obtain ⟨hne, hd, hnumber⟩ := allDigits?_eq_some.mp hm
    exact ⟨hne, hd, hnumber, by simpa [guard] using hle⟩
  unfold readCount? at h
  dsimp only at h
  split at h
  case h_1 ds hs =>
    obtain ⟨hne, hd, hnumber, hle⟩ := hdigits h
    exact ⟨ds, hne, hd, hnumber, hle, .inr hs⟩
  case h_2 =>
    obtain ⟨hne, hd, hnumber, hle⟩ := hdigits h
    exact ⟨s.toList, hne, hd, hnumber, hle, .inl rfl⟩

/-- Nothing is trimmed off digits with a sign. -/
theorem trimChars_plus {ds : List Char} (hne : ds ≠ []) (hd : ∀ c ∈ ds, c.isDigit = true) :
    Text.trimChars ('+' :: ds) = '+' :: ds := by
  refine Text.trimChars_of_ends (fun c hc => ?_) fun c hc => ?_
  · obtain rfl : '+' = c := Option.some.inj hc
    decide
  · rw [List.getLast?_cons_of_ne_nil hne] at hc
    exact isBlank_of_isDigit (hd c (List.mem_of_getLast? hc))

/-- A text that spells a count is read as the nearest double, or as the largest count if that is
    less. -/
theorem Payload.count?_of_readCount? (h : readCount? s = some n) :
    count? (.string s) = some (min (nearest n) Count.max) := by
  obtain ⟨ds, hne, hd, hnumber, hle, hs⟩ := exists_digits_of_readCount? h
  have hread : readDouble? (Text.trim s) = some (Reading.ofDecimal false n 0) := by
    rw [readDouble?, Text.toList_trim]
    rcases hs with hs | hs
    · rw [hs, trimChars_of_digits hd, ofChars?_of_digits hne hd, hnumber]
    · -- The sign is taken off, and the digits are read as they are alone.
      have hsign : Reading.ofChars? ('+' :: ds) = Reading.ofChars? ds := by
        rw [Reading.ofChars?, Reading.ofChars?, sign_of_digits hd]
        rfl
      rw [hs, trimChars_plus hne hd, hsign, ofChars?_of_digits hne hd, hnumber]
  rw [count?, hread, Option.bind_some, Reading.count?_ofDecimal hle]

end Digits

namespace Slop.Statistics

/-! ### The values -/

/-- Of the texts, those that spell a count are digits, and other counts are read as doubles. -/
theorem share?_string_eq_count?_iff (s : String) :
    share? (.string s) = Payload.count? (.string s) ↔ ¬ ReadsOtherwise (.string s) := by
  rw [share?]
  cases h : readCount? s with
  | none =>
    -- A text that spells no count reads otherwise if it is read as one all the same.
    have hreads : ReadsOtherwise (.string s) ↔ (Payload.count? (.string s)).isSome = true := by
      refine ⟨fun hreads => ?_, .text h⟩
      cases hreads with
      | text _ hc => exact hc
      | digits hn => cases h.symm.trans hn
    rw [hreads, Option.not_isSome_iff_eq_none, eq_comm]
  | some n =>
    -- Digits are read as a double, which holds the count or not.
    obtain ⟨_, -, -, -, hle, -⟩ := exists_digits_of_readCount? h
    have hreads : ReadsOtherwise (.string s) ↔ ¬ grain n ∣ n ∧ n ≠ Count.max := by
      refine ⟨fun hreads => ?_, fun hd => .digits h hd.1 hd.2⟩
      cases hreads with
      | text hn => cases h.symm.trans hn
      | digits hn hd hm =>
        obtain rfl := Option.some.inj (h.symm.trans hn)
        exact ⟨hd, hm⟩
    rw [hreads, Payload.count?_of_readCount? h, Option.some_inj, eq_comm, min_nearest_eq_iff hle,
      not_and_or, not_not, not_not]

/-- The two rules differ for the values that read otherwise, and for no others. -/
theorem share?_eq_count?_iff (x : Json) : share? x = Payload.count? x ↔ ¬ ReadsOtherwise x := by
  match x with
  | .null | .bool _ | .array _ | .object _ => exact iff_of_true rfl nofun
  | .number (.int _) => exact iff_of_true rfl nofun
  | .number (.float y) =>
    have hreads : ReadsOtherwise (.number (.float y)) ↔ y.isNonnegative = true :=
      ⟨fun | .double h => h, .double⟩
    rw [hreads, share?, Number.count?, Payload.count?, Reading.count?]
    cases y.isNonnegative <;> simp
  | .string s => exact share?_string_eq_count?_iff s

/-- What a severity gets a count from is a count by the other rule as well. -/
theorem isSome_count?_of_share? {x : Json} {n : ℕ} (h : share? x = some n) :
    (Payload.count? x).isSome = true := by
  by_cases hx : ReadsOtherwise x
  · cases hx with
    | double => cases h
    | text _ hc => exact hc
    | digits hn => rw [Payload.count?_of_readCount? hn]; rfl
  · rw [← (share?_eq_count?_iff x).mpr hx, h]
    rfl

/-! ### The severities -/

variable {x : Json} {ms : Json.Members}

/-- Each severity has a place of its own. -/
theorem countPlace_inj (c d : String × ℕ) : countPlace c = countPlace d ↔ c.1 = d.1 := by
  rw [countPlace, countPlace, toLex_inj]
  refine ⟨fun h => congrArg (·.2) h, fun h => ?_⟩
  rw [h]

/-- The severities of an object are sorted by rank and then by name, those of equal place in the
    order of the members. -/
theorem isStableSort_bySeverity (hx : x.objectOf? bySeverityFields = some ms) :
    IsStableSort countPlace (shares ms) (ofJson x).bySeverity := by
  rw [ofJson, hx]
  exact .mergeSort isLE_severityOrder _

/-- The counts that are given to one severity. -/
theorem filter_shares (severity : String) (ms : Json.Members) :
    (shares ms).filter (·.1 = severity) =
      ((valuesOf severity ms).filterMap share?).map (severity, ·) := by
  induction ms with
  | nil => rfl
  | cons m ms ih =>
    simp only [shares, valuesOf, List.filterMap_cons, List.filter_cons] at ih ⊢
    -- A member is on both sides if it is named for the severity and has a count.
    by_cases hname : Text.lowerAscii m.1 = severity
    · cases hn : share? m.2 with
      | none => simp [hname, hn, ih]
      | some n => simp [hname, hn, ih]
    · cases hn : share? m.2 with
      | none => simp [hname, ih]
      | some n => simp [hname, ih]

/-- What is told of one severity: the counts that its members give, in their order. -/
theorem filter_bySeverity (hx : x.objectOf? bySeverityFields = some ms) (severity : String) :
    (ofJson x).bySeverity.filter (·.1 = severity) =
      ((valuesOf severity ms).filterMap share?).map (severity, ·) := by
  have hstable := (isStableSort_bySeverity hx).stable (countPlace (severity, 0))
  simp only [countPlace_inj] at hstable
  rw [hstable, filter_shares]

/-- A severity has the counts that the members named for it give. -/
theorem mem_bySeverity_iff (hx : x.objectOf? bySeverityFields = some ms) {severity : String}
    {n : ℕ} :
    (severity, n) ∈ (ofJson x).bySeverity ↔ ∃ v ∈ valuesOf severity ms, share? v = some n := calc
  (severity, n) ∈ (ofJson x).bySeverity
      ↔ (severity, n) ∈ (ofJson x).bySeverity.filter (·.1 = severity) := by simp
  _ ↔ ∃ v ∈ valuesOf severity ms, share? v = some n := by
    rw [filter_bySeverity hx]
    simp

/-- A severity is told if one of the members named for it gives a count. -/
theorem mem_severities_iff (hx : x.objectOf? bySeverityFields = some ms) {severity : String} :
    severity ∈ (ofJson x).bySeverity.map (·.1) ↔
      ∃ v ∈ valuesOf severity ms, (share? v).isSome = true := by
  simp only [List.mem_map, Prod.exists, exists_and_right, exists_eq_right, mem_bySeverity_iff hx,
    Option.isSome_iff_exists]
  tauto

/-- How often a severity is told. -/
theorem count_bySeverity (hx : x.objectOf? bySeverityFields = some ms) (severity : String) :
    ((ofJson x).bySeverity.map (·.1)).count severity =
      ((valuesOf severity ms).filterMap share?).length := calc
  ((ofJson x).bySeverity.map (·.1)).count severity
      = ((ofJson x).bySeverity.filter (·.1 = severity)).length := by
    rw [List.count, List.countP_map, List.countP_eq_length_filter]
    rfl
  _ = ((valuesOf severity ms).filterMap share?).length := by
    rw [filter_bySeverity hx, List.length_map]

/-- The severities ascend if and only if each has one count at most. -/
theorem ascending_bySeverity_iff (hx : x.objectOf? bySeverityFields = some ms) :
    ((ofJson x).bySeverity.Pairwise fun c d => countPlace c < countPlace d) ↔
      ∀ severity, ((valuesOf severity ms).filterMap share?).length ≤ 1 := by
  have hne (c d : String × ℕ) : countPlace c < countPlace d ↔
      countPlace c ≤ countPlace d ∧ c.1 ≠ d.1 := by
    rw [lt_iff_le_and_ne, ne_eq, countPlace_inj]
  calc
    ((ofJson x).bySeverity.Pairwise fun c d => countPlace c < countPlace d)
        ↔ (ofJson x).bySeverity.Pairwise fun c d => c.1 ≠ d.1 := by
      simp only [hne, List.pairwise_and_iff, (isStableSort_bySeverity hx).ascending, true_and]
    _ ↔ ((ofJson x).bySeverity.map (·.1)).Nodup := List.pairwise_map.symm
    _ ↔ ∀ severity, ((valuesOf severity ms).filterMap share?).length ≤ 1 := by
      simp only [List.nodup_iff_count_le_one, count_bySeverity hx]

/-- Where each severity is told as it should be, the value of a single member is read by both rules
    alike. -/
theorem Tells.share?_eq (h : Tells ms (ofJson x).bySeverity)
    (hx : x.objectOf? bySeverityFields = some ms) {severity : String} {v : Json}
    (hv : valuesOf severity ms = [v]) : share? v = Payload.count? v := by
  cases hcount : Payload.count? v with
  | none =>
    refine Option.eq_none_iff_forall_ne_some.mpr fun n hn => ?_
    have hsome := isSome_count?_of_share? hn
    rw [hcount] at hsome
    cases hsome
  | some n =>
    obtain ⟨w, hw, hn⟩ := (mem_bySeverity_iff hx).mp (h.mem_of_single severity v n hv hcount)
    rw [hv, List.mem_singleton] at hw
    exact hw ▸ hn

/-- Each severity is told as it should be if and only if of the members that are named for it one at
    most gives it a count, one does if one has a count, and a single one does not read otherwise. -/
theorem tells_iff (hx : x.objectOf? bySeverityFields = some ms) :
    Tells ms (ofJson x).bySeverity ↔ ∀ severity,
      ((valuesOf severity ms).filterMap share?).length ≤ 1 ∧
      (∀ v ∈ valuesOf severity ms, (Payload.count? v).isSome = true →
        ∃ w ∈ valuesOf severity ms, (share? w).isSome = true) ∧
      ∀ v, valuesOf severity ms = [v] → ¬ ReadsOtherwise v := by
  constructor
  · -- Each of the three demands on the values of a severity makes one part of what is told right.
    intro h severity
    refine ⟨(ascending_bySeverity_iff hx).mp h.ascending severity, fun v hv hcount => ?_,
      fun v hv => (share?_eq_count?_iff v).mp (h.share?_eq hx hv)⟩
    exact (mem_severities_iff hx).mp ((h.mem_iff severity).mpr ⟨v, hv, hcount⟩)
  · intro h
    refine ⟨(ascending_bySeverity_iff hx).mpr fun severity => (h severity).1, ?members, ?single⟩
    case members =>
      intro severity
      rw [mem_severities_iff hx]
      constructor
      · rintro ⟨v, hv, hshare⟩
        obtain ⟨n, hn⟩ := Option.isSome_iff_exists.mp hshare
        exact ⟨v, hv, isSome_count?_of_share? hn⟩
      · rintro ⟨v, hv, hcount⟩
        exact (h severity).2.1 v hv hcount
    case single =>
      intro severity v n hv hcount
      have hshare : share? v = some n :=
        ((share?_eq_count?_iff v).mpr ((h severity).2.2 v hv)).trans hcount
      exact (mem_bySeverity_iff hx).mpr ⟨v, hv ▸ List.mem_singleton_self v, hshare⟩

/-- The counts are told by rank and name, one for each member that has a count by the rule for them,
    which differs from that for other counts where a value reads otherwise. So each severity is told
    as it should be if and only if of the members that are named for it one at most gives it a
    count, one does if one has a count, and a single one does not read otherwise. -/
theorem severities_are_told_iff (hx : x.objectOf? bySeverityFields = some ms) :
    let told := (ofJson x).bySeverity
    IsStableSort countPlace (shares ms) told ∧
      (∀ severity n, (severity, n) ∈ told ↔ ∃ v ∈ valuesOf severity ms, share? v = some n) ∧
      (∀ v, share? v = Payload.count? v ↔ ¬ ReadsOtherwise v) ∧
      (Tells ms told ↔ ∀ severity,
        ((valuesOf severity ms).filterMap share?).length ≤ 1 ∧
        (∀ v ∈ valuesOf severity ms, (Payload.count? v).isSome = true →
          ∃ w ∈ valuesOf severity ms, (share? w).isSome = true) ∧
        ∀ v, valuesOf severity ms = [v] → ¬ ReadsOtherwise v) := by
  intro told
  refine ⟨isStableSort_bySeverity hx, fun severity n => ?_, share?_eq_count?_iff, tells_iff hx⟩
  exact mem_bySeverity_iff hx

/-- Two severities, one of them spelled out. -/
theorem severities_are_told_iff_spelled :
    let ms : Json.Members := [("warning", .string "9"), ("Error", .nat 3)]
    let x : Json := .object [("bySeverity", .object ms)]
    x.objectOf? bySeverityFields = some ms ∧ ("error", 3) ∈ (ofJson x).bySeverity ∧
      ("warning", 9) ∈ (ofJson x).bySeverity := by
  intro ms x
  have hx : x.objectOf? bySeverityFields = some ms := rfl
  obtain ⟨-, hmem, -⟩ := severities_are_told_iff hx
  have herror : valuesOf "error" ms = [.nat 3] := rfl
  have hwarning : valuesOf "warning" ms = [.string "9"] := rfl
  refine ⟨hx, (hmem _ _).mpr ⟨.nat 3, ?_, rfl⟩, (hmem _ _).mpr ⟨.string "9", ?_, ?_⟩⟩
  · rw [herror]
    exact List.mem_singleton_self _
  · rw [hwarning]
    exact List.mem_singleton_self _
  · decide +kernel

/-- `7.5`, which is a count anywhere else. -/
theorem halves_are_untold :
    let half : Json := .number (.float ⟨false, ⟨8444249301319680, 1024⟩⟩)
    let ms : Json.Members := [("error", half)]
    let x : Json := .object [("bySeverity", .object ms)]
    Payload.text? half = some "7.5" ∧ Payload.count? half = some 7 ∧
      x.objectOf? bySeverityFields = some ms ∧ (ofJson x).bySeverity = [] ∧
      ¬ Tells ms (ofJson x).bySeverity := by
  intro half ms x
  have htold : (ofJson x).bySeverity = [] := List.mergeSort_nil
  have hcount : Payload.count? half = some 7 := by decide +kernel
  have hname : Text.lowerAscii "error" = "error" := by decide +kernel
  have hvalues : valuesOf "error" ms = [half] := by simp [valuesOf, ms, hname]
  refine ⟨by decide +kernel, hcount, rfl, htold, fun h => ?_⟩
  have hmem := h.mem_of_single "error" half 7 hvalues hcount
  rw [htold] at hmem
  exact List.not_mem_nil hmem

end Slop.Statistics

end Dashboard
