import Dashboard.Json.Parser
import Dashboard.Proofs.JsonMembers
import Dashboard.Proofs.StampReading
/-!
# Instants in every form

A daemon sends an instant as a number of seconds or milliseconds since the epoch, as such a number
in a string, or as a written time. All forms of one instant read alike.

* `readInt?_toString` — the text of an integer reads as the integer.
* `Payload.spelledInstant?_toString`, `Payload.spelledInstant?_stamp` — what a string is read as.
* `Json.number_of_read?` — what the text of a negative integer is read as.
* `instants_read_alike` — every form of an instant reads as the instant.
-/

namespace Dashboard

open Time

/-! ### Integers as text -/

/-- A sign and digits are read if 64 bits hold what they denote. -/
theorem readInt?_eq {s : String} {negative : Bool} {ds : List Char} {n : Nat} {z : Int}
    (hsign : Reading.sign s.toList = (negative, ds)) (hn : Reading.allDigits? ds = some n)
    (hz : (if negative then -(n : Int) else n) = z) :
    readInt? s = if -Count.signedBound ≤ z ∧ z < Count.signedBound then some z else none := by
  unfold readInt?
  simp only [hsign, hn, hz, Option.bind_eq_bind, Option.bind_some]
  unfold guard
  split
  · rfl
  · rfl

/-- The text of an integer reads as the integer if 64 bits hold it. -/
theorem readInt?_toString (z : Int) :
    readInt? (toString z) =
      if -Count.signedBound ≤ z ∧ z < Count.signedBound then some z else none := by
  cases z with
  | ofNat n =>
    have hsign : Reading.sign (toString n).toList = (false, (toString n).toList) :=
      sign_of_digits fun _ hc => isDigit_of_mem_toString hc
    exact readInt?_eq hsign (allDigits?_toString n) rfl
  | negSucc n =>
    have hsign : Reading.sign (toString (Int.negSucc n)).toList =
        (true, (toString (n + 1)).toList) := by
      rw [toList_toString_negSucc]
      rfl
    exact readInt?_eq hsign (allDigits?_toString (n + 1)) rfl

/-- No white space in the text of an integer. -/
theorem isBlank_of_mem_toString {z : Int} {c : Char} (hc : c ∈ (toString z).toList) :
    Text.isBlank c = false := by
  cases z with
  | ofNat n => exact isBlank_of_isDigit (isDigit_of_mem_toString hc)
  | negSucc n =>
    rw [toList_toString_negSucc] at hc
    rcases List.mem_cons.mp hc with rfl | hc
    · rfl
    · exact isBlank_of_isDigit (isDigit_of_mem_toString hc)

/-- Nothing is trimmed off the text of an integer. -/
theorem trim_toString (z : Int) : Text.trim (toString z) = toString z := by
  rw [← String.toList_inj, Text.toList_trim]
  exact Text.trimChars_of_ends (fun _ hc => isBlank_of_mem_toString (List.mem_of_head? hc))
    fun _ hc => isBlank_of_mem_toString (List.mem_of_getLast? hc)

/-- Nothing is trimmed off a stamp. -/
theorem trim_stamp (t : Stamp) : Text.trim t.text = t.text := by
  have hhead : ∀ c ∈ t.chars.head?, Text.isBlank c = false := by
    intro c hc
    cases hc
    exact isBlank_of_isDigit (Rfc3339.isDigit_digitChar (Nat.mod_lt _ (by decide)))
  have hlast : ∀ c ∈ t.chars.getLast?, Text.isBlank c = false := by
    have hminutes (minutes : Fin 60) :
        Text.isBlank (minutes.val / 10 ^ 0 % 10).digitChar = false :=
      isBlank_of_isDigit (Rfc3339.isDigit_digitChar (Nat.mod_lt _ (by decide)))
    intro c hc
    rw [Stamp.chars, List.getLast?_append] at hc
    -- The last character is that of the zone.
    cases hz : t.zone with
    | upperZ => rw [hz] at hc; cases hc; rfl
    | lowerZ => rw [hz] at hc; cases hc; rfl
    | ahead hours minutes => rw [hz] at hc; cases hc; exact hminutes minutes
    | behind hours minutes => rw [hz] at hc; cases hc; exact hminutes minutes
  rw [← String.toList_inj, Text.toList_trim, Stamp.text, String.toList_ofList]
  exact Text.trimChars_of_ends hhead hlast

namespace Payload

/-- The text of an integer is read as time since the epoch, if it has 64 bits with a sign. -/
theorem spelledInstant?_toString (z : Int) :
    spelledInstant? (toString z) =
      if -Count.signedBound ≤ z ∧ z < Count.signedBound then Instant.ofEpoch? z else none := by
  rw [spelledInstant?]
  simp only [trim_toString, Rfc3339.readInstant?_toString, readInt?_toString]
  split
  · rfl
  · rfl

/-- A stamp is read as the moment that it denotes. -/
theorem spelledInstant?_stamp {t : Stamp} {millis : Nat} (h : t.Denotes millis) :
    spelledInstant? t.text = some (Instant.ofMillis millis) := by
  rw [spelledInstant?]
  simp only [trim_stamp, h.readInstant?_text]

end Payload

/-! ### Integers as numbers -/

namespace Json

open Grammar

/-- What is read behind a minus sign is not above zero. -/
theorem truncate_of_number? {cs rest : List Char} {k : Number}
    (h : number? true cs = some (k, rest)) : k.truncate ≤ 0 := by
  -- A double with a sign is not positive, whatever its magnitude.
  have hfloat (m : Magnitude) : (Number.float ⟨true, m⟩).truncate ≤ 0 := by
    show -(m.floor : Int) ≤ 0
    omega
  obtain ⟨n, -, hn⟩ | ⟨_, _, hdouble⟩ := number?_cases h
  · rw [integer?, if_pos rfl] at hn
    split at hn
    · obtain ⟨m, -, rfl⟩ := Option.map_eq_some_iff.mp hn
      exact hfloat m
    · cases hn
      show -(n : Int) ≤ 0
      omega
  · obtain ⟨m, -, rfl⟩ := Option.map_eq_some_iff.mp hdouble
    exact hfloat m

/-- The text of an integer that is not above zero reads as such a number, also where 64 bits do not
    hold it. -/
theorem number_of_read? {z : Int} (hz : z ≤ 0) {x : Json} (h : read? (toString z) = some x) :
    ∃ k : Number, x = .number k ∧ k.truncate ≤ 0 := by
  cases z with
  -- Zero is the only one of them without a sign.
  | ofNat n =>
    obtain rfl : n = 0 := Int.ofNat_eq_zero.mp (Int.le_antisymm hz (Int.natCast_nonneg n))
    have hreads : (Number.int 0).Reads := Number.reads_int (by decide) (by decide)
    have htext : toString (Int.ofNat 0) = (number (.int 0)).print := rfl
    rw [htext, read?_print (.number hreads)] at h
    cases h
    exact ⟨.int 0, rfl, Int.le_refl 0⟩
  -- Whatever number is read behind a minus sign, it is not positive.
  | negSucc n =>
    obtain ⟨y, hy, rfl⟩ := Option.map_eq_some_iff.mp h
    rw [readRaw?, toList_toString_negSucc, stepsFor, Number.value?_minus] at hy
    cases hread : number? true (toString (n + 1)).toList with
    | none =>
      rw [hread] at hy
      cases hy
    | some read =>
      obtain ⟨k, rest⟩ := read
      rw [hread] at hy
      obtain ⟨-, heq⟩ := Option.ite_none_right_eq_some.mp hy
      cases heq
      exact ⟨k, rfl, truncate_of_number? hread⟩

end Json

/-! ### The unit is told from the size -/

namespace Time.Instant

theorem ofEpoch?_of_nonpos {z : Int} (hz : z ≤ 0) : ofEpoch? z = none := if_pos hz

/-- Small numbers count seconds. -/
theorem ofEpoch?_seconds {seconds : Int} (hpos : 0 < seconds) (hlt : seconds < millisFrom) :
    ofEpoch? seconds = some { seconds := seconds } := by
  rw [ofEpoch?, if_neg (Int.not_le.mpr hpos), if_pos hlt]

/-- Large numbers count milliseconds, up to the end of the years that can be written. -/
theorem ofEpoch?_millis {millis : Nat} (hlow : millisFrom ≤ millis)
    (hhigh : millis < 1000 * Stamp.endOfYears) : ofEpoch? millis = some (ofMillis millis) := by
  have hpos : 0 < millisFrom := by decide
  have hend : Stamp.endOfYears < endOfTime := by decide
  have hlast : (millis : Int) / 1000 < endOfTime := by omega
  have hrest : ((millis : Int) % 1000).toNat = millis % 1000 := by omega
  rw [ofEpoch?, if_neg (by omega), if_neg (Int.not_lt.mpr hlow), if_pos hlast, hrest, ofMillis]
  rfl

end Time.Instant

/-- A field that holds an instant of the years up to 9999 reads as that instant, be it a number of
    milliseconds from `10 ^ 11` on, the same in a string, or any stamp that denotes it; numbers of
    seconds up to there read as such in both forms; and no integer up to zero is an instant, neither
    in a string nor as a number, whether 64 bits hold it or not. -/
theorem instants_read_alike {ms : Json.Members} {names : Aliases} {name : String}
    (hl : ms.Leads names name) :
    let read (x : Json) := (Json.object (ms.put name x)).instantOf? names
    (∀ millis : Nat, Instant.millisFrom ≤ millis → millis < 1000 * Stamp.endOfYears →
      read (.nat millis) = some (.ofMillis millis) ∧
        read (.string (toString millis)) = some (.ofMillis millis) ∧
        ∀ t : Stamp, t.Denotes millis → read (.string t.text) = some (.ofMillis millis)) ∧
      (∀ seconds : Nat, 0 < seconds → seconds < Instant.millisFrom →
        read (.nat seconds) = some { seconds := seconds } ∧
          read (.string (toString seconds)) = some { seconds := seconds }) ∧
      ∀ z : Int, z ≤ 0 →
        read (.int z) = none ∧ read (.string (toString z)) = none ∧
          ∀ x, Json.read? (toString z) = some x → read x = none := by
  intro read
  -- What the field reads as, for each form of a value.
  have hnumber (k : Number) : read (.number k) = Instant.ofEpoch? k.truncate := by
    show (Json.object _).instantOf? names = _
    rw [Json.instantOf?, Json.field?_put hl rfl, Option.bind_some, Payload.instant?]
  have hstring (s : String) : read (.string s) = Payload.spelledInstant? s := by
    show (Json.object _).instantOf? names = _
    rw [Json.instantOf?, Json.field?_put hl rfl, Option.bind_some, Payload.instant?]
  have htext {z : Int} (hz : -Count.signedBound ≤ z ∧ z < Count.signedBound) :
      read (.string (toString z)) = Instant.ofEpoch? z := by
    rw [hstring, Payload.spelledInstant?_toString, if_pos hz]
  have hbound : 1000 * Stamp.endOfYears < Count.signedBound := by decide
  refine ⟨fun millis hlow hhigh => ?_, fun seconds hpos hlt => ?_, fun z hz => ?_⟩
  · have hmillis := Instant.ofEpoch?_millis hlow hhigh
    have hfits : -Count.signedBound ≤ (millis : Int) ∧ (millis : Int) < Count.signedBound := by
      omega
    refine ⟨(hnumber (.int millis)).trans hmillis, (htext hfits).trans hmillis, fun t ht => ?_⟩
    rw [hstring, Payload.spelledInstant?_stamp ht]
  · have hseconds := Instant.ofEpoch?_seconds (Int.natCast_pos.mpr hpos) hlt
    have hfrom : Instant.millisFrom < 1000 * Stamp.endOfYears := by decide
    have hfits : -Count.signedBound ≤ (seconds : Int) ∧ (seconds : Int) < Count.signedBound := by
      omega
    exact ⟨(hnumber (.int seconds)).trans hseconds, (htext hfits).trans hseconds⟩
  · refine ⟨(hnumber (.int z)).trans (Instant.ofEpoch?_of_nonpos hz), ?_, fun x hx => ?_⟩
    · rw [hstring, Payload.spelledInstant?_toString, Instant.ofEpoch?_of_nonpos hz, ite_self]
    · -- The text is read as some number, of which no more is needed than its sign.
      obtain ⟨k, rfl, hk⟩ := Json.number_of_read? hz hx
      rw [hnumber, Instant.ofEpoch?_of_nonpos hk]

/-- A time that is written ten hours behind UTC, on the day before, under the second name of a
    field. -/
theorem instants_read_alike_behind :
    let t : Stamp :=
      ⟨⟨1973, 3, 2, rfl⟩, by decide, .lowerT, 23, 46, 40, [5, 0, 0, 0], .behind 10 0⟩
    let ms : Json.Members := [("lastRun", .null)]
    let names := ["lastRun", "last_run"]
    (ms.Leads names "last_run" ∧ t.text = "1973-03-02t23:46:40.5000-10:00" ∧
      t.Denotes 100000000500) ∧
      (Json.object (ms.put "last_run" (.string t.text))).instantOf? names =
        some (.ofMillis 100000000500) := by
  intro t ms names
  have hleads : ms.Leads names "last_run" := ⟨["lastRun"], [], rfl, by decide +zetaReduce⟩
  have htext : t.text = "1973-03-02t23:46:40.5000-10:00" := by decide +zetaReduce
  have hdenotes : t.Denotes 100000000500 :=
    ⟨1156, Date.afterEpoch_eq_iff.mpr (by decide +zetaReduce), by decide +zetaReduce⟩
  obtain ⟨hmillis, -, -⟩ := instants_read_alike hleads
  obtain ⟨-, -, hstamp⟩ := hmillis 100000000500 (by decide) (by decide)
  exact ⟨⟨hleads, htext, hdenotes⟩, hstamp t hdenotes⟩

end Dashboard
