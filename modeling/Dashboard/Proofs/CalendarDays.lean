import Dashboard.Time.Stamp
/-!
# The days of the calendar are counted right

`daysSinceEpoch` reckons the number of a day from its date. It is the number of days that it takes
to come to that date from 1970-01-01, one after the other.

* `Date.number_next` — the next day has the next number.
* `Date.number_injective` — no two dates have one number.
* `Date.afterEpoch_eq_iff`, `daysSinceEpoch_afterEpoch` — so a date comes after so many days if and
  only if its number says so.
-/

namespace Dashboard.Time

/-- One if a year is a multiple of another number, else zero. -/
def divides (k year : Nat) : Nat := if year % k = 0 then 1 else 0

/-- Rounded up, a quotient grows behind a multiple. -/
theorem div_step {k : Nat} (hk : 0 < k) (n : Nat) :
    (n + k) / k = (n + (k - 1)) / k + divides k n := by
  -- Either `k` divides `n` and nothing is rounded, or one more part has begun.
  have hsplit : k * (n / k) + n % k = n := Nat.div_add_mod n k
  have hlt : n % k < k := Nat.mod_lt n hk
  rw [Nat.add_div_right n hk, divides]
  split
  · rename_i hzero
    have hq : (n + (k - 1)) / k = n / k := by
      rw [Nat.div_eq_iff hk]
      rw [Nat.mul_comm] at hsplit
      omega
    rw [hq]
  · rename_i hne
    have hq : (n + (k - 1)) / k = n / k + 1 := by
      rw [Nat.div_eq_iff hk, Nat.add_mul]
      rw [Nat.mul_comm] at hsplit
      omega
    rw [hq, Nat.add_zero]

/-- Every fourth year has a day more, but for one in a century, but for one in four centuries. -/
theorem length_year (year : Nat) :
    (if isLeapYear year then 366 else 365) + divides 100 year =
      365 + divides 4 year + divides 400 year := by
  have hleap : isLeapYear year = true ↔ year % 4 = 0 ∧ (year % 100 ≠ 0 ∨ year % 400 = 0) := by
    simp [isLeapYear]
  have hcentury : year % 100 = 0 → year % 4 = 0 := by omega
  have hcycle : year % 400 = 0 → year % 100 = 0 := by omega
  simp only [hleap, divides]
  -- Every fourth year is a leap year, but for those of a century that is no multiple of four.
  by_cases h4 : year % 4 = 0
  · by_cases h100 : year % 100 = 0
    · by_cases h400 : year % 400 = 0
      · simp [h4, h100, h400]
      · simp [h4, h100, h400]
    · simp [h4, h100, mt hcycle h100]
  · simp [h4, mt hcentury h4, mt hcycle (mt hcentury h4)]

/-- A leap year has one day more. -/
theorem daysBeforeYear_succ (year : Nat) :
    daysBeforeYear (year + 1) = daysBeforeYear year + if isLeapYear year then 366 else 365 := by
  have hfour : (year + 4) / 4 = (year + 3) / 4 + divides 4 year := div_step (by decide) year
  have hcentury : (year + 100) / 100 = (year + 99) / 100 + divides 100 year :=
    div_step (by decide) year
  have hcycle : (year + 400) / 400 = (year + 399) / 400 + divides 400 year :=
    div_step (by decide) year
  have hone : divides 100 year ≤ 1 := by
    unfold divides
    split <;> decide
  have hyear := length_year year
  -- The reckoning takes centuries away: there are never more of them than leap years.
  have hfew : (year + 99) / 100 ≤ (year + 3) / 4 := by omega
  simp only [daysBeforeYear, Nat.add_assoc, Nat.reduceAdd, hfour, hcentury, hcycle]
  omega

/-- The months of a year follow each other. -/
theorem daysBeforeMonth_succ (year : Nat) {month : Nat} (h : 1 ≤ month) :
    daysBeforeMonth year (month + 1) = daysBeforeMonth year month + daysInMonth year month := by
  obtain ⟨m, rfl⟩ := Nat.exists_eq_add_of_le' h
  rfl

/-- The months before December and its 31 days are a year. -/
theorem daysBeforeMonth_december (year : Nat) :
    daysBeforeMonth year 12 + 31 = if isLeapYear year then 366 else 365 := by
  simp only [daysBeforeMonth, daysInMonth]
  split
  · rfl
  · rfl

namespace Date

/-- The number of a day, counted from the start of year 0. -/
def number (d : Date) : Nat := daysBeforeYear d.year + daysBeforeMonth d.year d.month + (d.day - 1)

/-- The next day has the next number. -/
theorem number_next (d : Date) : d.next.number = d.number + 1 := by
  obtain ⟨hlow, hhigh⟩ := isDate_iff.mp d.valid
  obtain ⟨hmonth, htwelve⟩ := month_of_isDate d.valid
  unfold next number
  -- The next day is in the same month, or the first of the next month, or the first of the year.
  by_cases hday : d.day < daysInMonth d.year d.month
  · rw [dif_pos hday]
    dsimp only
    omega
  rw [dif_neg hday]
  by_cases hlast : d.month < 12
  · rw [dif_pos hlast]
    dsimp only
    rw [daysBeforeMonth_succ _ hmonth]
    omega
  · have hdecember : d.month = 12 := by omega
    have hyear := daysBeforeYear_succ d.year
    rw [← daysBeforeMonth_december] at hyear
    have hfirst : daysBeforeMonth (d.year + 1) 1 = 0 := rfl
    have hdays : daysInMonth d.year 12 = 31 := rfl
    rw [dif_neg hlast]
    dsimp only
    rw [hdecember] at hday hhigh ⊢
    omega

/-- A day is numbered from the first one of 1970. -/
theorem number_afterEpoch (days : Nat) : (afterEpoch days).number = epochDay + days := by
  induction days with
  | zero => rfl
  | succ days ih => rw [afterEpoch, number_next, ih, Nat.add_assoc]

/-! ### No two dates have one number -/

/-- Later years begin later. -/
theorem daysBeforeYear_mono {y y' : Nat} (h : y ≤ y') : daysBeforeYear y ≤ daysBeforeYear y' := by
  induction h with
  | refl => exact Nat.le_refl _
  | step _ ih =>
    rw [daysBeforeYear_succ]
    exact Nat.le_trans ih (Nat.le_add_right _ _)

/-- Later months begin later. -/
theorem daysBeforeMonth_mono (year : Nat) {m m' : Nat} (h : m ≤ m') :
    daysBeforeMonth year m ≤ daysBeforeMonth year m' := by
  induction h with
  | refl => exact Nat.le_refl _
  | @step k _ ih =>
    refine Nat.le_trans ih ?_
    cases k with
    | zero => exact Nat.le_refl 0
    | succ k => exact Nat.le_add_right _ _

/-- Among marks that do not fall, a number lies behind one mark and before the next only once. -/
theorem eq_of_between {f : Nat → Nat} (hf : ∀ {a b}, a ≤ b → f a ≤ f b) {a b n : Nat}
    (ha : f a ≤ n ∧ n < f (a + 1)) (hb : f b ≤ n ∧ n < f (b + 1)) : a = b := by
  rcases Nat.lt_trichotomy a b with hlt | heq | hlt
  · have hmark : f (a + 1) ≤ f b := hf hlt
    omega
  · exact heq
  · have hmark : f (b + 1) ≤ f a := hf hlt
    omega

/-- The days before a date in its year. -/
def dayOfYear (d : Date) : Nat := daysBeforeMonth d.year d.month + (d.day - 1)

/-- A date lies within its month. -/
theorem dayOfYear_between (d : Date) :
    daysBeforeMonth d.year d.month ≤ d.dayOfYear ∧
      d.dayOfYear < daysBeforeMonth d.year (d.month + 1) := by
  obtain ⟨hlow, hhigh⟩ := isDate_iff.mp d.valid
  obtain ⟨hmonth, -⟩ := month_of_isDate d.valid
  rw [daysBeforeMonth_succ _ hmonth, dayOfYear]
  omega

/-- A date lies within its year. -/
theorem number_between (d : Date) :
    daysBeforeYear d.year ≤ d.number ∧ d.number < daysBeforeYear (d.year + 1) := by
  obtain ⟨-, htwelve⟩ := month_of_isDate d.valid
  obtain ⟨-, hday⟩ := d.dayOfYear_between
  have hlast : daysBeforeMonth d.year (d.month + 1) ≤ daysBeforeMonth d.year 12 + 31 :=
    daysBeforeMonth_mono d.year (Nat.succ_le_succ htwelve)
  rw [daysBeforeYear_succ, ← daysBeforeMonth_december]
  unfold number
  unfold dayOfYear at hday
  omega

/-- No two dates have one number. -/
theorem number_injective {d d' : Date} (h : d.number = d'.number) : d = d' := by
  -- The number tells the year, what is left of it tells the month, and the rest is the day.
  have hyears := number_between d'
  rw [← h] at hyears
  have hyear : d.year = d'.year := eq_of_between daysBeforeYear_mono (number_between d) hyears
  have hrest : d'.dayOfYear = d.dayOfYear := by
    unfold number at h
    unfold dayOfYear
    rw [hyear] at h ⊢
    omega
  have hmonths := dayOfYear_between d'
  rw [hrest, ← hyear] at hmonths
  have hmonth : d.month = d'.month :=
    eq_of_between (daysBeforeMonth_mono d.year) (dayOfYear_between d) hmonths
  obtain ⟨hlow, -⟩ := isDate_iff.mp d.valid
  obtain ⟨hlow', -⟩ := isDate_iff.mp d'.valid
  have hday : d.day = d'.day := by
    unfold dayOfYear at hrest
    rw [hyear, hmonth] at hrest
    omega
  obtain ⟨year, month, day, _⟩ := d
  obtain ⟨year', month', day', _⟩ := d'
  cases hyear
  cases hmonth
  cases hday
  rfl

/-- The dates come in the order of their numbers, and none is left out. -/
theorem afterEpoch_eq_iff {d : Date} {days : Nat} :
    afterEpoch days = d ↔ d.number = epochDay + days := by
  constructor
  · rintro rfl
    exact number_afterEpoch days
  · intro h
    exact number_injective ((number_afterEpoch days).trans h.symm)

end Date

/-- A date that comes so many days after 1970-01-01 is that many days after it. -/
theorem daysSinceEpoch_afterEpoch {d : Date} {days : Nat} (h : Date.afterEpoch days = d) :
    daysSinceEpoch d.year d.month d.day = days := by
  have hnumber : daysBeforeYear d.year + daysBeforeMonth d.year d.month + (d.day - 1) =
      epochDay + days := Date.afterEpoch_eq_iff.mp h
  unfold daysSinceEpoch
  omega

end Dashboard.Time
