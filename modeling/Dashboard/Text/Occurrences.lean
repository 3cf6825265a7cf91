/-!
# Occurrences of a word in a text

* `occurrences` — at how many places of a text a word stands.
* `occurrences_append_cons` — a character that the word lacks divides the text.
* `occurrences_append_self` — a word stands once after characters that it does not start with.
-/

namespace Dashboard.Text

/-- At how many places of the characters a word stands. -/
def occurrences (word : List Char) : List Char → Nat
  | [] => if word = [] then 1 else 0
  | c :: cs => (if word.isPrefixOf (c :: cs) then 1 else 0) + occurrences word cs

variable {word a b cs : List Char} {c d : Char}

/-- A word does not stand in a text that lacks one of its characters. -/
theorem occurrences_eq_zero (hw : c ∈ word) (hc : c ∉ cs) : occurrences word cs = 0 := by
  induction cs with
  | nil => simp [occurrences, List.ne_nil_of_mem hw]
  | cons d cs ih =>
    have hprefix : ¬ word.isPrefixOf (d :: cs) = true := fun h =>
      hc ((List.isPrefixOf_iff_prefix.mp h).subset hw)
    rw [List.mem_cons, not_or] at hc
    simp only [occurrences, hprefix, Bool.false_eq_true, if_false, ih hc.2]

/-- A character that a word does not have ends the comparison with the word. -/
theorem isPrefixOf_append_cons (hd : d ∉ word) :
    word.isPrefixOf (a ++ d :: b) = word.isPrefixOf a := by
  induction word generalizing a with
  | nil => simp
  | cons c word ih =>
    rw [List.mem_cons, not_or] at hd
    cases a with
    | nil => simp [List.isPrefixOf, Ne.symm hd.1]
    | cons x a => simp only [List.cons_append, List.isPrefixOf, ih hd.2]

/-- A character that the word lacks divides the text. -/
theorem occurrences_append_cons (hne : word ≠ []) (hd : d ∉ word) :
    occurrences word (a ++ d :: b) = occurrences word a + occurrences word b := by
  induction a with
  | nil =>
    have hprefix := isPrefixOf_append_cons (a := []) (b := b) hd
    rw [List.nil_append] at hprefix
    cases word with
    | nil => exact absurd rfl hne
    | cons c word => simp [occurrences, hprefix]
  | cons x a ih =>
    have hprefix := isPrefixOf_append_cons (a := x :: a) (b := b) hd
    rw [List.cons_append] at hprefix ⊢
    simp only [occurrences, hprefix, ih]
    omega

/-- A word does not occur in characters that are fewer. -/
theorem occurrences_of_length_lt (h : cs.length < word.length) : occurrences word cs = 0 := by
  induction cs with
  | nil => simp [occurrences, List.ne_nil_of_length_pos h]
  | cons d cs ih =>
    have hprefix : ¬ word.isPrefixOf (d :: cs) = true := fun hp => by
      have := (List.isPrefixOf_iff_prefix.mp hp).length_le
      omega
    simp only [occurrences, hprefix, Bool.false_eq_true, if_false]
    rw [ih (by simp only [List.length_cons] at h; omega)]

/-- A word stands once after characters that it does not start with. -/
theorem occurrences_append_self (hc : c ∉ a) :
    occurrences (c :: cs) (a ++ c :: cs) = 1 := by
  induction a with
  | nil =>
    simp only [List.nil_append, occurrences]
    rw [occurrences_of_length_lt (by simp)]
    simp
  | cons x a ih =>
    rw [List.mem_cons, not_or] at hc
    have hprefix : ¬ (c :: cs).isPrefixOf (x :: (a ++ c :: cs)) = true := by
      simp [hc.1]
    rw [List.cons_append, occurrences, ih hc.2, if_neg hprefix]

end Dashboard.Text
