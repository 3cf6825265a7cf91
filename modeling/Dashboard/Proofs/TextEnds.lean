import Dashboard.Text.Basic
import Mathlib.Data.List.TakeWhile
/-!
# White space at the ends of a text

* `trimChars_of_ends` — a text that begins and ends with something else is left as it is.
* `trim_between` — white space that is put before or after a text is dropped again.
* `trim_of_isBlankText` — of white space nothing is left.
-/

namespace Dashboard.Text

variable {cs blanks : List Char}

/-- Nothing is dropped from a text that neither begins nor ends with white space. -/
theorem trimChars_of_ends (hhead : ∀ c ∈ cs.head?, isBlank c = false)
    (hlast : ∀ c ∈ cs.getLast?, isBlank c = false) : trimChars cs = cs := by
  have hdrop {cs : List Char} (h : ∀ c ∈ cs.head?, isBlank c = false) :
      cs.dropWhile isBlank = cs := by
    cases cs with
    | nil => rfl
    | cons c cs => exact List.dropWhile_cons_of_neg (Bool.eq_false_iff.mp (h c rfl))
  rw [trimChars, hdrop hhead, hdrop (List.head?_reverse ▸ hlast), List.reverse_reverse]

/-- White space that is put to the end is dropped again. -/
theorem trimChars_append (hb : ∀ c ∈ blanks, isBlank c = true) (cs : List Char) :
    trimChars (cs ++ blanks) = trimChars cs := by
  have hreverse : ∀ c ∈ blanks.reverse, isBlank c = true :=
    fun c hc => hb c (List.mem_reverse.mp hc)
  rw [trimChars, trimChars, List.dropWhile_append]
  split
  · rename_i hempty
    rw [List.isEmpty_iff.mp hempty, List.dropWhile_eq_nil_iff.mpr hb]
  · rw [List.reverse_append, List.dropWhile_append_of_pos hreverse]

/-- White space that is put to the front is dropped again. -/
theorem trimChars_blank_append (hb : ∀ c ∈ blanks, isBlank c = true) (cs : List Char) :
    trimChars (blanks ++ cs) = trimChars cs := by
  rw [trimChars, trimChars, List.dropWhile_append_of_pos hb]

/-- All characters of a blank text are blank. -/
theorem mem_of_isBlankText {s : String} (h : isBlankText s = true) :
    ∀ c ∈ s.toList, isBlank c = true := List.all_eq_true.mp h

/-- Between white space a text is found as it is alone. -/
theorem trim_between {before after : String} (hb : isBlankText before = true)
    (ha : isBlankText after = true) (s : String) : trim (before ++ s ++ after) = trim s := by
  rw [← String.toList_inj, toList_trim, toList_trim, String.toList_append, String.toList_append,
    trimChars_append (mem_of_isBlankText ha), trimChars_blank_append (mem_of_isBlankText hb)]

/-- A return at the end is trimmed off. -/
theorem trim_append_return (s : String) : trim (s ++ "\r") = trim s := by
  have hreturn : isBlankText "\r" = true := by decide
  rw [← String.toList_inj, toList_trim, toList_trim, String.toList_append]
  exact trimChars_append (mem_of_isBlankText hreturn) s.toList

/-- Of white space nothing is left. -/
theorem trim_of_isBlankText {s : String} (h : isBlankText s = true) : trim s = "" := by
  have hdrop : s.toList.dropWhile isBlank = [] :=
    List.dropWhile_eq_nil_iff.mpr (mem_of_isBlankText h)
  rw [← String.toList_inj, toList_trim, trimChars, hdrop]
  rfl

end Dashboard.Text
