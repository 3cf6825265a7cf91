import Dashboard.Panel.Document
import Dashboard.Proofs.EmbeddedJson
/-!
# The characters of scripts and style sheets

No script and no style sheet of a document has a `<`, so none can hold the end tag that would close
it. Scripts of tabs have no `&` either, which tells them from the script that installs the registry.

* `mem_intercalate`, `mem_intercalate_of_mem` — the characters of lines put together.
* `Wiring.fits_table` — the bindings in a script can be read.
* `Wiring.not_mem_scriptLines`, `Wiring.not_mem_script` — the script of any bindings.
* `Wiring.lt_not_mem_bootstrap`, `Panel.not_mem_styleSheet` — the fixed texts.
-/

namespace Dashboard

variable {c : Char}

/-! ### Texts that are put together -/

/-- For literals, whose characters are known without decoding them. -/
theorem not_mem_ofList {cs : List Char} (h : cs.contains c = false) :
    c ∉ (String.ofList cs).toList := by
  simpa using h

theorem mem_ofList {cs : List Char} (h : cs.contains c = true) : c ∈ (String.ofList cs).toList := by
  simpa using h

/-- What two texts do not have, the text of both does not have. -/
theorem not_mem_append {s t : String} (hs : c ∉ s.toList) (ht : c ∉ t.toList) :
    c ∉ (s ++ t).toList := by
  rw [String.toList_append, List.mem_append]
  exact not_or.mpr ⟨hs, ht⟩

/-- A character of joined texts is one of the separator or of one of the texts. -/
theorem mem_intercalate {separator : String} {parts : List String}
    (h : c ∈ (separator.intercalate parts).toList) :
    c ∈ separator.toList ∨ ∃ s ∈ parts, c ∈ s.toList := by
  rw [String.toList_intercalate] at h
  induction parts with
  | nil => simp at h
  | cons s rest ih =>
    cases rest with
    | nil => exact .inr ⟨s, List.mem_cons_self, by simpa using h⟩
    | cons s' rest =>
      simp only [List.map_cons, List.intercalate_cons_cons, List.mem_append] at h ih
      rcases h with (h | h) | h
      · -- In the first text, in the separator behind it, or in the rest.
        exact .inr ⟨s, List.mem_cons_self, h⟩
      · exact .inl h
      · refine (ih h).imp id ?_
        rintro ⟨t, ht, hc⟩
        exact ⟨t, List.mem_cons_of_mem _ ht, hc⟩

/-- A character of one of the texts is in the joined text. -/
theorem mem_intercalate_of_mem {separator s : String} {parts : List String} (hs : s ∈ parts)
    (h : c ∈ s.toList) : c ∈ (separator.intercalate parts).toList := by
  rw [String.toList_intercalate]
  induction parts with
  | nil => cases hs
  | cons t rest ih =>
    cases rest with
    | nil =>
      obtain rfl := List.mem_singleton.mp hs
      simpa using h
    | cons t' rest =>
      simp only [List.map_cons, List.intercalate_cons_cons, List.mem_append] at ih ⊢
      rcases List.mem_cons.mp hs with rfl | hs
      · exact .inl (.inl h)
      · exact .inr (ih hs)

/-- What neither the separator nor the texts have, the joined text does not have. -/
theorem not_mem_intercalate {separator : String} {parts : List String}
    (hs : c ∉ separator.toList) (hp : ∀ s ∈ parts, c ∉ s.toList) :
    c ∉ (separator.intercalate parts).toList :=
  fun h => (mem_intercalate h).elim hs fun ⟨s, hmem, hc⟩ => hp s hmem hc

/-! ### Scripts -/

/-- The characters that have a meaning where text is markup. -/
def isMarkupChar (c : Char) : Prop := c = '<' ∨ c = '&'

/-- Characters that no line of the script of a tab has. -/
def isForeignToScripts (c : Char) : Prop := isMarkupChar c ∨ c = '>' ∨ c = '\n'

/-- The text of a value in a script has none of the characters that it escapes, and is one line. -/
theorem Json.Fits.not_mem_embedded {x : Json} {depth : Nat} (hx : x.Fits depth)
    (hc : isForeignToScripts c) : c ∉ x.embedded.toList := by
  rw [toList_embedded, embed, List.mem_flatMap]
  rintro ⟨d, hd, hmem⟩
  by_cases hescaped : IsEscaped d
  · rcases hc with (rfl | rfl) | rfl | rfl <;> rcases hescaped with rfl | rfl | rfl <;>
      revert hmem <;> decide
  · have hself : embedChar d = [d] := by simpa [embed] using Grammar.embed_cons_of_not hescaped []
    rw [hself, List.mem_singleton] at hmem
    subst hmem
    rcases hc with (rfl | rfl) | rfl | rfl
    · exact hescaped (.inl rfl)
    · exact hescaped (.inr (.inr rfl))
    · exact hescaped (.inr (.inl rfl))
    · exact absurd (hx.plain _ hd) (by decide)

namespace Wiring

/-- What may be missing of a binding is text and no number. -/
theorem Post.fits_of_mem_optional {name : String} {s : Option String} {m : String × Json}
    (hm : m ∈ Post.optional name s) {depth : Nat} : m.2.Fits depth := by
  cases s with
  | none => cases hm
  | some value => exact List.mem_singleton.mp hm ▸ .string value

/-- A binding is written without numbers and not nested deep. -/
theorem Post.fits_toJson (p : Post) {depth : Nat} : p.toJson.Fits (depth + 2) := by
  refine .object fun m hm => ?_
  simp only [List.mem_append] at hm
  rcases hm with ((hm | hm) | hm) | hm
  · split at hm
    · cases hm
    · obtain rfl := List.mem_singleton.mp hm
      refine .array fun x hx => ?_
      obtain ⟨name, -, rfl⟩ := List.mem_map.mp hx
      exact .string name
  · exact Post.fits_of_mem_optional hm
  · exact List.mem_singleton.mp hm ▸ .string _
  · exact Post.fits_of_mem_optional hm

/-- A table can be read: it is nested three deep. -/
theorem fits_table (trigger : Trigger) (bindings : List Binding) :
    (Json.object (table trigger bindings)).Fits Json.Grammar.depthLimit := by
  refine .object fun m hm => ?_
  obtain ⟨b, -, rfl⟩ := List.mem_map.mp (Json.Members.mem_of_mem_sorted hm)
  exact b.post.fits_toJson

/-- The lines that every script shares have none of these characters. -/
theorem not_mem_runner (hc : isForeignToScripts c) : ∀ line ∈ runner, c ∉ line.toList := by
  simp only [runner, List.forall_mem_cons, List.not_mem_nil, false_imp_iff, implies_true, and_true]
  rcases hc with (rfl | rfl) | rfl | rfl <;> and_intros <;> exact not_mem_ofList rfl

/-- Nor have the lines that register the events of one kind. -/
theorem not_mem_registration (hc : isForeignToScripts c) (trigger : Trigger)
    (bindings : List Binding) : ∀ line ∈ registration trigger bindings, c ∉ line.toList := by
  intro line hline
  simp only [registration] at hline
  split at hline
  · cases hline
  · have htable := (fits_table trigger bindings).not_mem_embedded hc
    obtain rfl := List.mem_singleton.mp hline
    have hregistrar : c ∉ trigger.registrar.toList := by
      rcases hc with (rfl | rfl) | rfl | rfl <;> cases trigger <;> exact not_mem_ofList rfl
    have hguard : c ∉ trigger.guard.toList := by
      rcases hc with (rfl | rfl) | rfl | rfl <;> cases trigger <;> exact not_mem_ofList rfl
    simp only [String.toList_append, List.mem_append, htable, hregistrar, hguard, or_false,
      not_or]
    rcases hc with (rfl | rfl) | rfl | rfl <;> and_intros <;> exact not_mem_ofList rfl

/-- The lines of the script of a tab. -/
def scriptLines (tabId : String) (bindings : List Binding) : List String :=
  [ "(function () \x7b"
  , "  var registry = window.devboardRegistry;"
  , "  if (!registry) \x7b return; \x7d"
  , "  var tabId = " ++ (Json.string tabId).embedded ++ ";" ] ++
  runner ++
  Trigger.all.flatMap (registration · bindings) ++
  [ "\x7d)();" ]

theorem script_eq (tabId : String) (bindings : List Binding) :
    script tabId bindings = "\n".intercalate (scriptLines tabId bindings) := rfl

/-- None of its lines has one of these characters. -/
theorem not_mem_scriptLines (hc : isForeignToScripts c) (tabId : String) (bindings : List Binding) :
    ∀ line ∈ scriptLines tabId bindings, c ∉ line.toList := by
  have hfits : (Json.string tabId).Fits 0 := .string tabId
  have hid := hfits.not_mem_embedded hc
  have hregistrations : ∀ line ∈ Trigger.all.flatMap (registration · bindings),
      c ∉ line.toList := by
    intro line hline
    obtain ⟨t, -, hline⟩ := List.mem_flatMap.mp hline
    exact not_mem_registration hc t bindings line hline
  simp only [scriptLines, List.forall_mem_append]
  refine ⟨⟨⟨?_, not_mem_runner hc⟩, hregistrations⟩, ?_⟩
  all_goals
    simp only [List.forall_mem_cons, List.not_mem_nil, false_imp_iff, implies_true, and_true,
      String.toList_append, List.mem_append, hid, or_false, not_or]
    rcases hc with (rfl | rfl) | rfl | rfl <;> and_intros <;> exact not_mem_ofList rfl

/-- The script of any bindings has no character that has a meaning in markup, and no `>`. -/
theorem not_mem_script (hc : isMarkupChar c ∨ c = '>') (tabId : String) (bindings : List Binding) :
    c ∉ (script tabId bindings).toList := by
  have hforeign : isForeignToScripts c := hc.imp id .inl
  rw [script_eq]
  refine not_mem_intercalate ?_ (not_mem_scriptLines hforeign tabId bindings)
  rcases hc with (rfl | rfl) | rfl <;> exact not_mem_ofList rfl

/-- The script that starts a document has no opening bracket. -/
theorem lt_not_mem_bootstrap : '<' ∉ bootstrap.toList := by
  refine not_mem_intercalate (not_mem_ofList rfl) ?_
  simp only [List.forall_mem_cons, List.not_mem_nil, false_imp_iff, implies_true, and_true]
  and_intros <;> exact not_mem_ofList rfl

/-- The installing script has an `&`, unlike the scripts of tabs. -/
theorem amp_mem_bootstrap : '&' ∈ bootstrap.toList :=
  mem_intercalate_of_mem (s := "      var root = target && target.closest ? target.closest('[data-tab-id]') : null;")
    (by simp) (mem_ofList rfl)

/-- The installing script has a single quote, unlike what stands before it in a document. -/
theorem apos_mem_bootstrap : '\'' ∈ bootstrap.toList :=
  mem_intercalate_of_mem (s := "    var key = kind + ':' + tabId;") (by simp) (mem_ofList rfl)

/-- It begins with a parenthesis. -/
theorem bootstrap_head : ∃ cs, bootstrap.toList = '(' :: cs := by
  obtain ⟨cs, hcs⟩ : ∃ cs, "(function () \x7b".toList = '(' :: cs := ⟨_, String.toList_ofList⟩
  rw [bootstrap, String.toList_intercalate, List.map_cons, List.map_cons,
    List.intercalate_cons_cons, hcs]
  exact ⟨_, rfl⟩

end Wiring

/-! ### Style sheets -/

/-- Characters that no style sheet has. -/
def isForeignToStyles (c : Char) : Prop := c = '<' ∨ c = '\''

/-- The styles of a tab have none of these characters. -/
theorem Tab.not_mem_styles (hc : isForeignToStyles c) (t : Tab) : c ∉ t.styles.toList := by
  cases t
  case cron => refine not_mem_append ?_ ?_ <;> rcases hc with rfl | rfl <;> exact not_mem_ofList rfl
  case stats =>
    refine not_mem_append (not_mem_append ?_ ?_) ?_ <;> rcases hc with rfl | rfl <;>
      exact not_mem_ofList rfl
  case slop => refine not_mem_append ?_ ?_ <;> rcases hc with rfl | rfl <;> exact not_mem_ofList rfl
  case tools => rcases hc with rfl | rfl <;> exact not_mem_ofList rfl
  case context =>
    refine not_mem_append (not_mem_append ?_ ?_) ?_ <;> rcases hc with rfl | rfl <;>
      exact not_mem_ofList rfl

/-- Nor has the style sheet of the panel. -/
theorem Panel.not_mem_styleSheet (hc : isForeignToStyles c) (p : Panel) :
    c ∉ p.styleSheet.toList := by
  have hend : c ∉ "\n".toList := by rcases hc with rfl | rfl <;> exact not_mem_ofList rfl
  simp only [Panel.styleSheet]
  induction p.tabs.filter (·.styles ≠ "") with
  | nil => rcases hc with rfl | rfl <;> exact not_mem_ofList rfl
  | cons t ts ih =>
    rw [List.map_cons, String.join_cons]
    exact not_mem_append (not_mem_append (t.not_mem_styles hc) hend) ih

/-- No script of a document has a `<`. -/
theorem Panel.lt_not_mem_scripts (p : Panel) : ∀ s ∈ p.scripts, '<' ∉ s.toList := by
  simp only [Panel.scripts, List.forall_mem_append, List.forall_mem_cons, List.forall_mem_map,
    List.not_mem_nil, false_imp_iff, implies_true, and_true]
  exact ⟨⟨Wiring.lt_not_mem_bootstrap, Wiring.not_mem_script (.inl (.inl rfl)) _ _⟩,
    fun t _ => Wiring.not_mem_script (.inl (.inl rfl)) t.id t.bindings⟩

end Dashboard
