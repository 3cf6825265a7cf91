import Dashboard.Proofs.LowerCaseParts
import Dashboard.Slop.State
/-!
# Searching the findings

* `Slop.Filter.mem_visible_iff` — what is shown while a text is searched for.
* `Slop.State.search_shows_parts_iff` — the texts whose search shows every finding that they are a
  part of.
* `Slop.State.final_sigma_hides_finding` — a text that is not found where it stands.
-/

namespace Dashboard.Slop

open Text

theorem Finding.mentions_iff {f : Finding} {query : String} : f.mentions query = true ↔
    ∃ w ∈ [f.file, f.rule, f.message], (lower query).toList <:+: (lower w).toList := by
  simp only [mentions, List.any_eq_true, containsText_iff]

/-- While a text is searched for and no severity is asked for, those findings are shown in which it
    occurs when all is in lower case. -/
theorem Filter.mem_visible_iff {filter : Filter} {query : String} {xs : List Finding} {f : Finding}
    (hs : filter.severity = none) (hq : filter.query = some query) : f ∈ filter.visible xs ↔
      f ∈ xs ∧
        ∃ w ∈ [f.file, f.rule, f.message], (lower query).toList <:+: (lower w).toList := by
  rw [visible, List.mem_filter, passesSeverity, passesQuery, hs, hq]
  simp only [Option.all_none, Option.all_some, Bool.true_and, Finding.mentions_iff]

namespace State

variable {s : State} {c : Command} {query : String}

/-- The filter after a search. -/
theorem filter_react_search (hc : Verb.ofWord? c.name = some .search)
    (hq : (c.word? "query").map trim = some query) (hne : query ≠ "") :
    (s.react c).1.filter = { s.filter with query := some query } := by
  rw [react, hc]
  simp only [Filter.withQuery, hq]
  simp [hne]

/-- A search shows the findings in which the text occurs when both are in lower case. That holds of
    every finding that has the text where each of its sigmas keeps its form. It holds of every finding
    that has the text, whatever stands around it there, if and only if the text is settled. -/
theorem search_shows_parts_iff (hs : s.filter.severity = none)
    (hc : Verb.ofWord? c.name = some .search) (hq : (c.word? "query").map trim = some query)
    (hne : query ≠ "") :
    let shown := (s.react c).1.filter.visible
    (∀ xs f, f ∈ shown xs ↔ f ∈ xs ∧
      ∃ w ∈ [f.file, f.rule, f.message], (lower query).toList <:+: (lower w).toList) ∧
    (∀ xs f before after, f ∈ xs →
      String.ofList (before ++ query.toList ++ after) ∈ [f.file, f.rule, f.message] →
      KeepsForms before.reverse after query.toList → f ∈ shown xs) ∧
    ((∀ xs f, f ∈ xs → (∃ w ∈ [f.file, f.rule, f.message], query.toList <:+: w.toList) →
      f ∈ shown xs) ↔ IsSettled query.toList) := by
  intro shown
  -- What is shown is decided in lower case.
  have hshown (xs : List Finding) (f : Finding) : f ∈ shown xs ↔ f ∈ xs ∧
      ∃ w ∈ [f.file, f.rule, f.message], (lower query).toList <:+: (lower w).toList := by
    refine Filter.mem_visible_iff ?_ ?_
    · rw [filter_react_search hc hq hne, hs]
    · rw [filter_react_search hc hq hne]
  refine ⟨hshown, ?kept, ?settled⟩
  case kept =>
    intro xs f before after hf hw hforms
    refine (hshown xs f).mpr ⟨hf, _, hw, ?_⟩
    simpa [lower] using hforms.isInfix
  case settled =>
    -- A settled text is one that keeps its lower case between any other characters.
    rw [isSettled_iff]
    constructor
    · -- A finding that has the text with something around it in every field.
      intro h before after
      let whole := String.ofList (before ++ query.toList ++ after)
      let f : Finding := ⟨none, whole, none, whole, "", whole⟩
      have hpart : query.toList <:+: whole.toList := ⟨before, after, by simp [whole]⟩
      have hmem := h [f] f List.mem_cons_self ⟨whole, List.mem_cons_self, hpart⟩
      obtain ⟨-, w, hw, hlower⟩ := (hshown [f] f).mp hmem
      obtain rfl : w = whole := by simpa [f] using hw
      simpa [lower, whole] using hlower
    · rintro h xs f hf ⟨w, hw, before, after, hwhole⟩
      refine (hshown xs f).mpr ⟨hf, w, hw, ?_⟩
      simpa [lower, hwhole] using h before after

/-- A search within a word, with a sigma that no neighbours change. -/
theorem search_shows_parts_iff_within :
    let s := State.new 3
    let c : Command := ⟨"slopSearch", none, [("query", .string " ΣΟΦ ")]⟩
    let f : Finding := ⟨none, "a.rs", none, "", "info", "ΦΙΛΟΣΟΦΟΣ"⟩
    (s.filter.severity = none ∧ Verb.ofWord? c.name = some .search ∧
        (c.word? "query").map trim = some "ΣΟΦ") ∧
      f ∈ (s.react c).1.filter.visible [f] := by
  intro s c f
  have hs : s.filter.severity = none := rfl
  have hc : Verb.ofWord? c.name = some .search := by decide +kernel
  have hq : (c.word? "query").map trim = some "ΣΟΦ" := by decide +kernel
  have hsettled : IsSettled "ΣΟΦ".toList := by decide +kernel
  refine ⟨⟨hs, hc, hq⟩, ?_⟩
  refine (search_shows_parts_iff hs hc hq (by decide)).2.2.mpr hsettled [f] f List.mem_cons_self ?_
  exact ⟨f.message, by simp [f], "ΦΙΛΟ".toList, "ΟΣ".toList, by decide +kernel⟩

/-- The sigma at the end of the text is a final one, but not where the word goes on. -/
theorem final_sigma_hides_finding :
    let s := State.new 3
    let c : Command := ⟨"slopSearch", none, [("query", .string "ΟΔΟΣ")]⟩
    let f : Finding := ⟨none, "a.rs", none, "", "info", "ΟΔΟΣΑ"⟩
    s.filter.severity = none ∧ (c.word? "query").map trim = some "ΟΔΟΣ" ∧
      "ΟΔΟΣ".toList <:+: f.message.toList ∧
      (s.react c).1.filter.query = some "ΟΔΟΣ" ∧ f ∉ (s.react c).1.filter.visible [f] := by
  intro s c f
  have hhidden : ((s.react c).1.filter.visible [f]).isEmpty = true := by decide +kernel
  refine ⟨rfl, by decide +kernel, ⟨[], ['Α'], by decide +kernel⟩, by decide +kernel, ?_⟩
  rw [List.isEmpty_iff.mp hhidden]
  exact List.not_mem_nil

end State

end Dashboard.Slop
