import Dashboard.Figure.Span
import Dashboard.Proofs.NumberText
/-!
# The text of a duration

A text of a duration has one of four forms, and its figures stand for a number of milliseconds.

* `Span.text_injective` — a proper span is told by its text, so a text stands for one number.
* `duration_eq_text` — a duration is shown as the span that it is rounded to.
* `Span.toMillis_ofMillis` — the roundings, each with the durations that it is for.
* `duration_reads_rounded` — the text is proper, longer durations stand for no less, and nothing
  is off by more than half of the last place unless the sum is cut at the largest count.
-/

namespace Dashboard.Figure

/-- Below sixty, two digits are one pair of them. -/
theorem twoDigits_eq_digitPair {n : Nat} (hn : n < 60) : twoDigits n = digitPair n := by
  have hall : ∀ n < 60, twoDigits n = digitPair n := by decide +kernel
  exact hall n hn

/-- Below sixty, no two numbers have one pair of digits. -/
theorem digitPair_injective {m n : Nat} (hm : m < 60) (hn : n < 60)
    (heq : digitPair m = digitPair n) : m = n := by
  have hread : ∀ n < 60, Nat.ofDigitChars 10 (digitPair n).toList 0 = n := by decide +kernel
  rw [← hread m hm, heq, hread n hn]

/-- A number is told from the text that follows it, unless that goes on with a digit. -/
theorem toString_append_inj {m n : Nat} {s t : String}
    (hs : ∀ c ∈ s.toList.head?, c.isDigit = false) (ht : ∀ c ∈ t.toList.head?, c.isDigit = false)
    (heq : toString m ++ s = toString n ++ t) : m = n ∧ s = t := by
  obtain ⟨htake, hdrop⟩ := span_toString m hs
  obtain ⟨htake', hdrop'⟩ := span_toString n ht
  rw [← String.toList_inj, String.toList_append, String.toList_append] at heq
  have hmn : m = n := by
    apply toString_nat_injective
    rw [← String.toList_inj, ← htake, heq, htake']
  have hst : s.toList = t.toList := by rw [← hdrop, heq, hdrop']
  exact ⟨hmn, String.toList_inj.mp hst⟩

namespace Span

/-- What follows the first number of a duration does not go on with digits. -/
theorem not_isDigit_rest (s : Span) : ∀ c ∈ s.rest.toList.head?, c.isDigit = false := by
  intro c hc
  cases s <;> simp [rest] at hc <;> subst hc <;> decide

/-- What follows the first figure tells the form, and in that form the second figure. -/
theorem eq_of_rest_eq {s t : Span} (hs : s.IsProper) (ht : t.IsProper) (hfirst : s.first = t.first)
    (hrest : s.rest = t.rest) : s = t := by
  cases s <;> cases t <;> simp only [first] at hfirst
  case millis.millis => rw [hfirst]
  case seconds.seconds m a n b =>
    simp only [rest, String.append_left_inj, String.append_right_inj] at hrest
    rw [hfirst, toString_nat_injective hrest]
  case minutes.minutes m a n b =>
    simp only [rest, String.append_left_inj, String.append_right_inj] at hrest
    rw [hfirst, digitPair_injective hs.2.2 ht.2.2 hrest]
  case hours.hours m a n b =>
    simp only [rest, String.append_left_inj, String.append_right_inj] at hrest
    rw [hfirst, digitPair_injective hs.2 ht.2 hrest]
  -- Two forms differ in the first or second character behind the figure.
  all_goals exact absurd (congrArg String.toList hrest) (by simp [rest])

/-- A proper span is told by its text. -/
theorem text_injective {s t : Span} (hs : s.IsProper) (ht : t.IsProper) (heq : s.text = t.text) :
    s = t := by
  obtain ⟨hfirst, hrest⟩ := toString_append_inj (not_isDigit_rest s) (not_isDigit_rest t) heq
  exact eq_of_rest_eq hs ht hfirst hrest

end Span

/-- A duration is shown as the span that it is rounded to. -/
theorem duration_eq_text (ms : Nat) : duration ms = (Span.ofMillis ms).text := by
  have hpair (n : Nat) : twoDigits (n % 60) = digitPair (n % 60) :=
    twoDigits_eq_digitPair (Nat.mod_lt _ (by decide))
  unfold duration Span.ofMillis
  simp only [hpair]
  split
  · rw [Span.text_millis]
  split
  · rw [Span.text_seconds, decimal]
  split
  · rw [Span.text_minutes]
  · rw [Span.text_hours]

namespace Span

section

variable {ms : Nat}

theorem ofMillis_of_lt_second (h : ms < 1000) : ofMillis ms = millis ms := if_pos h

/-- Below a minute, tenths of a second are rounded from fifty milliseconds on. -/
theorem tenths_second (hmost : ms < 59950) : tenths ms 1000 = (ms + 50) / 100 := by
  have hmax : Count.max = 18446744073709551615 := rfl
  unfold tenths
  omega

/-- A duration rounds to less than a minute up to here. -/
theorem tenths_second_lt_iff (hmost : ms ≤ Count.max) : tenths ms 1000 < 600 ↔ ms < 59950 := by
  have hmax : Count.max = 18446744073709551615 := rfl
  unfold tenths
  omega

/-- Up to what rounds to a minute, seconds and tenths are shown. -/
theorem ofMillis_of_lt_minute (hleast : 1000 ≤ ms) (h : ms < 59950) :
    ofMillis ms = seconds ((ms + 50) / 100 / 10) ((ms + 50) / 100 % 10) := by
  have htenths := tenths_second h
  have hlt : tenths ms 1000 < 600 := by omega
  rw [ofMillis, if_neg (by omega), if_pos hlt, htenths]

/-- Up to what rounds to an hour, minutes and seconds are shown. -/
theorem ofMillis_of_lt_hour (hleast : 59950 ≤ ms) (h : ms < 3599500) :
    ofMillis ms = minutes ((ms + 500) / 1000 / 60) ((ms + 500) / 1000 % 60) := by
  have hmax : Count.max = 18446744073709551615 := rfl
  have htenths : ¬ tenths ms 1000 < 600 := by
    rw [tenths_second_lt_iff (by omega)]
    omega
  have hadd : Count.add ms 500 = ms + 500 := by unfold Count.add; omega
  simp only [ofMillis, if_neg (show ¬ ms < 1000 by omega), if_neg htenths, hadd]
  exact if_pos (by omega)

/-- From there on hours and minutes are shown. -/
theorem ofMillis_of_le_hour (hleast : 3599500 ≤ ms) (hmost : ms ≤ Count.max) :
    ofMillis ms =
      hours (Count.add ms 30000 / 60000 / 60) (Count.add ms 30000 / 60000 % 60) := by
  have hmax : Count.max = 18446744073709551615 := rfl
  have htenths : ¬ tenths ms 1000 < 600 := by
    rw [tenths_second_lt_iff hmost]
    omega
  have hadd : ¬ Count.add ms 500 / 1000 < 3600 := by unfold Count.add; omega
  simp only [ofMillis, if_neg (show ¬ ms < 1000 by omega), if_neg htenths]
  exact if_neg hadd

/-- The four roundings, each with the durations that it is for. -/
theorem ofMillis_cases (hmost : ms ≤ Count.max) :
    (ms < 1000 ∧ ofMillis ms = millis ms) ∨
    (1000 ≤ ms ∧ ms < 59950 ∧
      ofMillis ms = seconds ((ms + 50) / 100 / 10) ((ms + 50) / 100 % 10)) ∨
    (59950 ≤ ms ∧ ms < 3599500 ∧
      ofMillis ms = minutes ((ms + 500) / 1000 / 60) ((ms + 500) / 1000 % 60)) ∨
    (3599500 ≤ ms ∧
      ofMillis ms =
        hours (Count.add ms 30000 / 60000 / 60) (Count.add ms 30000 / 60000 % 60)) := by
  rcases Nat.lt_or_ge ms 1000 with hsecond | hsecond
  · exact .inl ⟨hsecond, ofMillis_of_lt_second hsecond⟩
  rcases Nat.lt_or_ge ms 59950 with hminute | hminute
  · exact .inr (.inl ⟨hsecond, hminute, ofMillis_of_lt_minute hsecond hminute⟩)
  rcases Nat.lt_or_ge ms 3599500 with hhour | hhour
  · exact .inr (.inr (.inl ⟨hminute, hhour, ofMillis_of_lt_hour hminute hhour⟩))
  · exact .inr (.inr (.inr ⟨hhour, ofMillis_of_le_hour hhour hmost⟩))

/-- The smaller figure of a duration never reaches the larger one. -/
theorem isProper_ofMillis (hmost : ms ≤ Count.max) : (ofMillis ms).IsProper := by
  have hmax : Count.max = 18446744073709551615 := rfl
  rcases ofMillis_cases hmost with ⟨h, heq⟩ | ⟨hl, h, heq⟩ | ⟨hl, h, heq⟩ | ⟨hl, heq⟩ <;> rw [heq]
  · exact h
  · simp only [IsProper]
    omega
  · simp only [IsProper]
    omega
  · simp only [IsProper, Count.add]
    omega

/-- What a duration stands for once it is rounded. -/
theorem toMillis_ofMillis (hmost : ms ≤ Count.max) :
    (ofMillis ms).toMillis =
      if ms < 1000 then ms
      else if ms < 59950 then (ms + 50) / 100 * 100
      else if ms < 3599500 then (ms + 500) / 1000 * 1000
      else Count.add ms 30000 / 60000 * 60000 := by
  rcases ofMillis_cases hmost with ⟨h, heq⟩ | ⟨hl, h, heq⟩ | ⟨hl, h, heq⟩ | ⟨hl, heq⟩ <;> rw [heq]
  · rw [if_pos h, toMillis]
  · rw [if_neg (by omega), if_pos h, toMillis]
    omega
  · rw [if_neg (by omega), if_neg (by omega), if_pos h, toMillis]
    omega
  · rw [if_neg (by omega), if_neg (by omega), if_neg (by omega), toMillis]
    omega

/-- A longer duration stands for no less: at each hand-over both roundings meet. -/
theorem toMillis_ofMillis_le {later : Nat} (hle : ms ≤ later) (hmost : later ≤ Count.max) :
    (ofMillis ms).toMillis ≤ (ofMillis later).toMillis := by
  have hmax : Count.max = 18446744073709551615 := rfl
  rw [toMillis_ofMillis (Nat.le_trans hle hmost), toMillis_ofMillis hmost]
  unfold Count.add
  split_ifs <;> omega

/-- Rounding moves a duration by half of the last place at most. -/
theorem toMillis_ofMillis_close (hroom : ms + 30000 ≤ Count.max) :
    ms ≤ (ofMillis ms).toMillis + (ofMillis ms).slack ∧
      (ofMillis ms).toMillis ≤ ms + (ofMillis ms).slack := by
  have hmost : ms ≤ Count.max := by omega
  rcases ofMillis_cases hmost with ⟨h, heq⟩ | ⟨hl, h, heq⟩ | ⟨hl, h, heq⟩ | ⟨hl, heq⟩ <;> rw [heq]
  · simp [toMillis, slack]
  · simp only [toMillis, slack]
    omega
  · simp only [toMillis, slack]
    omega
  · have hadd : Count.add ms 30000 = ms + 30000 := Nat.min_eq_left hroom
    simp only [toMillis, slack, hadd]
    omega

/-- Where the sum is cut, the minutes are those that the largest count has. -/
theorem toMillis_ofMillis_of_cut (hcut : Count.max < ms + 30000) (hmost : ms ≤ Count.max) :
    ms < (ofMillis ms).toMillis + 60000 ∧ (ofMillis ms).toMillis < ms + 60000 := by
  have hmax : Count.max = 18446744073709551615 := rfl
  have hadd : Count.add ms 30000 = Count.max := Nat.min_eq_right (Nat.le_of_lt hcut)
  rw [toMillis_ofMillis hmost, if_neg (by omega), if_neg (by omega), if_neg (by omega), hadd]
  omega

end

end Span

/-- The text of a duration shows the span that the duration is rounded to, and no other one. -/
theorem Span.shows_duration_iff {ms : Nat} (hmost : ms ≤ Count.max) {s : Span} :
    s.Shows (duration ms) ↔ s = ofMillis ms := by
  have hproper := isProper_ofMillis hmost
  constructor
  · rintro ⟨hs, htext⟩
    exact text_injective hs hproper (htext.trans (duration_eq_text ms))
  · rintro rfl
    exact ⟨hproper, (duration_eq_text ms).symm⟩

/-- The text of a duration shows exactly one span. A longer duration never shows less, and what is
shown is off by half of the last place at most, or by less than a minute where half a minute more
would pass the largest count. -/
theorem duration_reads_rounded {ms : Nat} (hmost : ms ≤ Count.max) :
    ∃ s : Span, (∀ other : Span, other.Shows (duration ms) ↔ other = s) ∧
      (∀ later, ms ≤ later → later ≤ Count.max →
        ∀ other : Span, other.Shows (duration later) → s.toMillis ≤ other.toMillis) ∧
      (ms + 30000 ≤ Count.max →
        ms ≤ s.toMillis + s.slack ∧ s.toMillis ≤ ms + s.slack) ∧
      (Count.max < ms + 30000 → ms < s.toMillis + 60000 ∧ s.toMillis < ms + 60000) := by
  refine ⟨.ofMillis ms, fun _ => Span.shows_duration_iff hmost, ?ordered,
    Span.toMillis_ofMillis_close, fun hcut => Span.toMillis_ofMillis_of_cut hcut hmost⟩
  case ordered =>
    intro later hle hlater other hshows
    rw [(Span.shows_duration_iff hlater).mp hshows]
    exact Span.toMillis_ofMillis_le hle hlater

/-- The last duration that reads in seconds, and the largest one of all. -/
theorem duration_reads_rounded_at_hand_overs :
    (59949 ≤ Count.max ∧ ∃ s : Span, s.Shows (duration 59949) ∧ s.toMillis = 59900 ∧
      ∀ later, 59949 ≤ later → later ≤ Count.max →
        ∀ other : Span, other.Shows (duration later) → s.toMillis ≤ other.toMillis) ∧
    (Count.max ≤ Count.max ∧ ∃ s : Span, s.Shows (duration Count.max) ∧
      Count.max < s.toMillis + 60000) := by
  refine ⟨⟨by decide, ?_⟩, ⟨by decide, ?_⟩⟩
  · obtain ⟨s, hs, hlater, -⟩ := duration_reads_rounded (show 59949 ≤ Count.max by decide)
    have hshown : (Span.seconds 59 9).Shows (duration 59949) :=
      (Span.shows_duration_iff (by decide)).mpr (by decide)
    exact ⟨s, (hs s).mpr rfl, (hs _).mp hshown ▸ rfl, hlater⟩
  · obtain ⟨s, hs, -, -, hcut⟩ := duration_reads_rounded (Nat.le_refl Count.max)
    exact ⟨s, (hs s).mpr rfl, (hcut (by decide)).1⟩

end Dashboard.Figure
