import Dashboard.Markup.Data
import Dashboard.Proofs.MarkupReading
/-!
# Escaped text reads back

Escaped text holds no character that markup gives a meaning, apart from the ampersands of its own
entities. Text that looks like an entity has its ampersand escaped, so nothing is read twice.

* `Text.escapeChar_cases` — a character is written as its entity or as itself.
* `Text.not_mem_escapeChars`, `Text.exists_entity_of_suffix` — the characters of escaped text.
* `Text.unescape_escape`, `Text.escape_injective` — the entities read back as the text.
* `Markup.Attribute.readPairs?_printAll` — data attributes read back as the pairs.
-/

namespace Dashboard

namespace Text

variable {c d : Char} {cs rest after : List Char}

/-- A character is written as its entity or as itself. -/
theorem escapeChar_cases (c : Char) :
    (∃ e : Entity, e.char = c ∧ escapeChar c = '&' :: e.tail) ∨
      (Entity.ofChar? c = none ∧ escapeChar c = [c]) := by
  unfold escapeChar
  cases h : Entity.ofChar? c with
  | some e => exact .inl ⟨e, Markup.Entity.ofChar?_eq_some h, rfl⟩
  | none => exact .inr ⟨rfl, rfl⟩

theorem escapeChars_cons (c : Char) (cs : List Char) :
    escapeChars (c :: cs) = escapeChar c ++ escapeChars cs := List.flatMap_cons

/-! ### The characters of escaped text -/

/-- The characters that escaped text never has. -/
def IsMarked (c : Char) : Prop := c = '<' ∨ c = '>' ∨ c = '"' ∨ c = '\''

theorem Entity.not_mem_spelling (e : Entity) (hc : IsMarked c) : c ∉ '&' :: e.tail := by
  rcases hc with rfl | rfl | rfl | rfl <;> cases e <;> decide

theorem Entity.amp_not_mem_tail (e : Entity) : '&' ∉ e.tail := by
  cases e <;> decide

/-- Escaped text holds none of these characters. -/
theorem not_mem_escapeChars (hc : IsMarked c) (cs : List Char) : c ∉ escapeChars cs := by
  induction cs with
  | nil => exact List.not_mem_nil
  | cons d cs ih =>
    rw [escapeChars_cons, List.mem_append, not_or]
    refine ⟨?_, ih⟩
    rcases escapeChar_cases d with ⟨e, -, hd⟩ | ⟨hnone, hd⟩ <;> rw [hd]
    · exact e.not_mem_spelling hc
    · rw [List.mem_singleton]
      rintro rfl
      obtain ⟨-, hlt, hgt, hquot, hapos⟩ := Markup.Entity.ofChar?_eq_none hnone
      rcases hc with h | h | h | h <;> contradiction

/-- A suffix that begins with a character lies behind what lacks the character. -/
theorem suffix_of_append (hc : c ∉ cs) (h : c :: after <:+ cs ++ rest) : c :: after <:+ rest := by
  induction cs with
  | nil => exact h
  | cons d cs ih =>
    rw [List.mem_cons, not_or] at hc
    rcases List.suffix_cons_iff.mp h with heq | h
    · exact absurd (List.cons.inj heq).1 hc.1
    · exact ih hc.2 h

/-- Every ampersand starts an entity. -/
theorem exists_entity_of_suffix (h : '&' :: after <:+ escapeChars cs) :
    ∃ e : Entity, e.tail <+: after := by
  induction cs with
  | nil => exact absurd (List.suffix_nil.mp h) (List.cons_ne_nil _ _)
  | cons c cs ih =>
    rw [escapeChars_cons] at h
    rcases escapeChar_cases c with ⟨e, -, hc⟩ | ⟨hnone, hc⟩ <;> rw [hc] at h
    · -- Either this is the ampersand of the entity, or it stands behind the entity.
      rcases List.suffix_cons_iff.mp h with heq | h
      · exact ⟨e, escapeChars cs, (List.cons.inj heq).2.symm⟩
      · exact ih (suffix_of_append e.amp_not_mem_tail h)
    · have hne : '&' ∉ [c] := fun hmem =>
        (Markup.Entity.ofChar?_eq_none hnone).1 (List.mem_singleton.mp hmem).symm
      exact ih (suffix_of_append hne h)

/-! ### Reading it back -/

theorem unescapeChars_entity (e : Entity) (cs : List Char) :
    unescapeChars ('&' :: e.tail ++ cs) = e.char :: unescapeChars cs := by
  cases e <;> rfl

/-- Any other character reads as it is. -/
theorem unescapeChars_cons (hc : c ≠ '&') (cs : List Char) :
    unescapeChars (c :: cs) = c :: unescapeChars cs := by
  rw [unescapeChars.eq_def]
  split <;> simp_all

/-- Escaped characters read as they were. -/
theorem unescapeChars_escapeChars (cs : List Char) : unescapeChars (escapeChars cs) = cs := by
  induction cs with
  | nil => rfl
  | cons c cs ih =>
    rw [escapeChars_cons]
    rcases escapeChar_cases c with ⟨e, rfl, hc⟩ | ⟨hnone, hc⟩ <;> rw [hc]
    · rw [unescapeChars_entity, ih]
    · obtain ⟨hamp, -⟩ := Markup.Entity.ofChar?_eq_none hnone
      rw [List.singleton_append, unescapeChars_cons hamp, ih]

/-- The entities of escaped text read back as the text. -/
theorem unescape_escape (s : String) : unescape (escape s) = s := by
  rw [unescape, toList_escape, unescapeChars_escapeChars, String.ofList_toList]

/-- Different texts stay different when they are escaped. -/
theorem escape_injective : Function.Injective escape :=
  Function.LeftInverse.injective unescape_escape

end Text

/-! ### Data attributes -/

namespace Markup.Attribute

open Text

variable {name : String} {cs : List Char}

/-- Labels need no escapes. -/
theorem escapeChars_of_isLabelChar (hcs : ∀ c ∈ cs, isLabelChar c = true) :
    escapeChars cs = cs := by
  induction cs with
  | nil => rfl
  | cons c cs ih =>
    obtain ⟨hc, hcs⟩ := List.forall_mem_cons.mp hcs
    simp only [isLabelChar, Bool.and_eq_true, Option.isNone_iff_eq_none] at hc
    rw [escapeChars_cons, ih hcs, escapeChar, hc.1.1.1]
    rfl

/-- For literals, whose characters are known without decoding them. -/
theorem isTemplateSafe_ofList (hcs : cs.all isLabelChar = true) :
    IsTemplateSafe (String.ofList cs) := by
  rw [IsTemplateSafe, String.toList_ofList]
  exact List.all_eq_true.mp hcs

/-- What is written before the value of a pair. -/
def dataStart (name : String) : List Char :=
  ' ' :: 'd' :: 'a' :: 't' :: 'a' :: '-' :: (name.toList ++ ['='])

/-- The start of a data attribute tells its name. -/
theorem dataName?_dataStart (hname : IsTemplateSafe name) :
    dataName? (dataStart name) = some name := by
  have hend : isLabelChar '=' = false := by decide
  have hdrop : (name.toList ++ ['=']).dropWhile isLabelChar = ['='] := by
    rw [List.dropWhile_append_of_pos hname, List.dropWhile_cons_of_neg (by simp [hend])]
  have htake : (name.toList ++ ['=']).takeWhile isLabelChar = name.toList := by
    rw [List.takeWhile_append_of_pos hname, List.takeWhile_cons_of_neg (by simp [hend]),
      List.append_nil]
  show (if (name.toList ++ ['=']).dropWhile isLabelChar = ['='] then
    some (String.ofList ((name.toList ++ ['=']).takeWhile isLabelChar)) else none) = _
  rw [if_pos hdrop, htake, String.ofList_toList]

/-- No quote stands in the start of a data attribute. -/
theorem quote_not_mem_dataStart (hname : IsTemplateSafe name) : '"' ∉ dataStart name := by
  have hquote : '"' ∉ name.toList := fun hmem => absurd (hname _ hmem) (by decide)
  simp [dataStart, hquote]

/-- What is written for pairs of which the first has a safe name. -/
theorem toList_printAll_cons (hname : IsTemplateSafe name) (value : String)
    (data : List (String × String)) :
    (printAll (ofPairs ((name, value) :: data))).toList =
      dataStart name ++
        '"' :: (escapeChars value.toList ++ '"' :: (printAll (ofPairs data)).toList) := by
  have hescape : escapeChars name.toList = name.toList := escapeChars_of_isLabelChar hname
  have hprefix : " data-".toList = [' ', 'd', 'a', 't', 'a', '-'] := String.toList_ofList
  show (print (.data name value) ++ printAll (ofPairs data)).toList = _
  simp [print, dataStart, hescape, hprefix]

/-- The quotes divide what is written for pairs into names and values. -/
theorem readPairs?_printAll {data : List (String × String)}
    (hnames : ∀ p ∈ data, IsTemplateSafe p.1) :
    readPairs? (printAll (ofPairs data)) = some data := by
  unfold readPairs?
  induction data with
  | nil => rfl
  | cons p data ih =>
    obtain ⟨name, value⟩ := p
    obtain ⟨hname, hnames⟩ := List.forall_mem_cons.mp hnames
    have hvalue : '"' ∉ escapeChars value.toList := not_mem_escapeChars (.inr (.inr (.inl rfl))) _
    have hunescape : unescape (String.ofList (escapeChars value.toList)) = value :=
      unescape_escape value
    -- Neither the start of an attribute nor its value holds a quote.
    rw [toList_printAll_cons hname,
      List.splitOn_append_cons_self_of_not_mem (quote_not_mem_dataStart hname),
      List.splitOn_append_cons_self_of_not_mem hvalue, pairs?, dataName?_dataStart hname,
      ih hnames, hunescape]
    rfl

end Markup.Attribute

open Text

/-- Escaped text has none of the characters that markup gives a meaning but the ampersands of its
entities, and these read back as the text; so no two texts are written alike, and data attributes
read back as the names and values that they were written from. -/
theorem Markup.escaped_text_reads_back (s : String) {data : List (String × String)}
    (hnames : ∀ p ∈ data, Attribute.IsTemplateSafe p.1) :
    (∀ c ∈ ['<', '>', '"', '\''], c ∉ (escape s).toList) ∧
      (∀ after, '&' :: after <:+ (escape s).toList → ∃ e : Entity, e.tail <+: after) ∧
      unescape (escape s) = s ∧ Function.Injective escape ∧
      Attribute.readPairs? (Attribute.printAll (Attribute.ofPairs data)) = some data := by
  refine ⟨?unmarked, ?amps, unescape_escape s, escape_injective,
    Attribute.readPairs?_printAll hnames⟩
  case unmarked =>
    intro c hc
    rw [toList_escape]
    exact not_mem_escapeChars (by simpa [IsMarked] using hc) _
  case amps =>
    intro after h
    rw [toList_escape] at h
    exact exists_entity_of_suffix h

/-- Text that looks like an entity, a quote in a value, and names of every kind. -/
theorem Markup.escaped_text_reads_back_entity :
    (∀ p ∈ [("job-name", "a\"b &quot;"), ("ключ.1", "<>")], Attribute.IsTemplateSafe p.1) ∧
      unescape (escape "&lt;&") = "&lt;&" ∧
      Attribute.readPairs?
          (Attribute.printAll (Attribute.ofPairs [("job-name", "a\"b &quot;"), ("ключ.1", "<>")])) =
        some [("job-name", "a\"b &quot;"), ("ключ.1", "<>")] := by
  have hnames : ∀ p ∈ [("job-name", "a\"b &quot;"), ("ключ.1", "<>")],
      Attribute.IsTemplateSafe p.1 := by
    simp only [List.forall_mem_cons, List.not_mem_nil, false_imp_iff, implies_true, and_true]
    exact ⟨Attribute.isTemplateSafe_ofList rfl, Attribute.isTemplateSafe_ofList rfl⟩
  obtain ⟨-, -, hunescape, -, hread⟩ := escaped_text_reads_back "&lt;&" hnames
  exact ⟨hnames, hunescape, hread⟩

end Dashboard
