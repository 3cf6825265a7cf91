import Dashboard.Proofs.CommandEffects
import Dashboard.Proofs.PickedElements
import Dashboard.Tab.Selector
/-!
# The choice of a severity and the filter in force

The options of the choice are those of a table, and a command may ask for any severity. So the choice
tells the filter in force if that is in the table and no option is marked if it is not.

* `filter_replay` — the filter in force is what the last command asked for.
* `Slop.State.severityControls_eq` — the view has one choice where it has a section on findings.
* `severity_choice_tells_iff` — when the choice tells the filter in force.
* `unlisted_severity_reads_all` — a severity hides a finding while the choice reads all.
-/

namespace Dashboard.Slop

open Markup Markup.Node

/-! ### The filter in force -/

/-- Only a choice of severity changes the chosen one, to what it asks for in lower case, and to none
    if it asks for all of them or for nothing. -/
theorem severity_react (s : State) (c : Command) :
    (s.react c).1.filter.severity =
      if c.name = Verb.filterSeverity.word then
        ((c.word? "severity").map Text.lowerAscii).filter (· != anySeverity)
      else s.filter.severity := by
  unfold State.react
  cases hv : Verb.ofWord? c.name with
  | none =>
    have hne : c.name ≠ Verb.filterSeverity.word := by
      rintro heq
      rw [heq] at hv
      exact absurd hv (by decide)
    rw [if_neg hne]
  | some v =>
    rw [Tab.word_of_find? hv]
    cases v <;> rfl

/-- The filter in force is what the last command that chose a severity asked for. -/
theorem filter_replay (cap historyLimit : Nat) (history : List Tab.Deed) :
    ∃ s : State, (Tab.new .slop cap historyLimit).replay history = .slop s ∧
      s.filter.severity = severityAsked history := by
  induction history with
  | nil => exact ⟨.new cap, rfl, rfl⟩
  | cons d earlier ih =>
    obtain ⟨s, hs, hseverity⟩ := ih
    rw [Tab.replay, hs]
    cases d with
    | begin => exact ⟨_, rfl, hseverity⟩
    | complete ticket report => exact ⟨_, rfl, hseverity⟩
    | command c =>
      exact ⟨(s.react c).1, rfl, by rw [severity_react, hseverity, severityAsked]⟩

/-- What is asked for is never the word for all severities, which asks for none. -/
theorem severityAsked_ne_all (history : List Tab.Deed) :
    severityAsked history ≠ some anySeverity := by
  induction history with
  | nil => nofun
  | cons d earlier ih =>
    cases d with
    | begin | complete => exact ih
    | command c =>
      rw [severityAsked]
      split
      · -- The word for all severities is filtered out where it is asked for.
        intro h
        exact absurd rfl (bne_iff_ne.mp (Option.filter_eq_some_iff.mp h).2)
      · exact ih

/-! ### The choice in the view -/

/-- The choice that shows a severity. -/
def severityElement (severity : Option String) : Element Empty :=
  .ofChoice Verb.filterSeverity.word ((anySeverity :: severities).map fun s => (s, s))
    (severity.getD anySeverity)

/-- The section on the loop has no choice of severity. -/
theorem every_isFor_loopSection (status : Option LoopStatus) (now : Time.Instant) :
    Every (·.isFor Verb.filterSeverity.word = false) (loopSection status now) :=
  every_loopSection Element.isFor_of_isInert status now
    (fun on => every_toggle (by decide) on []) (every_actionButton (by decide) "Scan now" [])
    (every_actionButton (by decide) "Refresh" [])

/-- The section on findings has one choice of severity. -/
theorem pick_findingsSection (findings : Option (List Finding)) (filter : Filter) :
    pick (·.isFor Verb.filterSeverity.word) [findingsSection findings filter] =
      [severityElement filter.severity] := by
  have hsearch : Every (·.isFor Verb.filterSeverity.word = false) (searchField filter.query) :=
    (every_element ..).mpr ⟨Element.isFor_of_action? rfl (by decide), everyAll_nil⟩
  have htable : EveryAll (·.isFor Verb.filterSeverity.word = false)
      (findingsTable filter findings) :=
    every_findings Element.isFor_of_isInert filter findings fun _ _ f _ =>
      every_row Element.isFor_of_isInert f fun id _ =>
        every_actionButton (by decide) "Dismiss" [("id", id)]
  rw [findingsSection, pick_panelSectionWith Element.isFor_of_isInert, pick_cons_of_every hsearch,
    severityChoice, pick_choice_self, pick_eq_nil htable]
  rfl

/-- The view has one choice of severity if it has data, and none otherwise. -/
theorem pick_view (x : Snapshot) (filter : Filter) (now : Time.Instant) :
    pick (·.isFor Verb.filterSeverity.word) (x.view filter now) =
      if x.hasAnyData then [severityElement filter.severity] else [] := by
  have hnone : Every (·.isFor Verb.filterSeverity.word = false)
      (emptyState "search" "The slop daemon returned no data" : Node Empty) :=
    (every_emptyState Element.isFor_of_isInert ..).mpr trivial
  rw [Snapshot.view]
  split
  · rw [pick_cons_of_every (every_isFor_loopSection x.status now), pick_findingsSection]
  · exact pick_of_every hnone

/-- The view has one choice of a severity where it has a section on findings, and none elsewhere. -/
theorem State.severityControls_eq (s : State) (now : Time.Instant) :
    s.severityControls now =
      if s.showsFindings then [severityElement s.filter.severity] else [] := by
  have hretry := every_retryButton (show Verb.retry.word ≠ Verb.filterSeverity.word by decide)
  rw [severityControls, controls_eq_pick, content, s.load.pick_content Element.isFor_of_isInert _
    hretry, showsFindings]
  cases s.load.snapshot with
  | none => rfl
  | some x => exact pick_view x s.filter now

/-! ### What the choice tells -/

/-- The choice offers all severities together and each of them alone. -/
theorem choices_severityElement (severity : Option String) :
    (severityElement severity).choices = anySeverity :: severities := by
  rw [severityElement, Element.choices_ofChoice, List.map_map]
  exact List.map_id _

/-- The chosen severity is marked if it is among those offered, and nothing is otherwise. -/
theorem selected_severityElement (severity : Option String) :
    (severityElement severity).selected =
      if severity.getD anySeverity ∈ anySeverity :: severities then [severity.getD anySeverity]
      else [] := by
  have hvalues : ((anySeverity :: severities).map fun s => (s, s)).map (·.1) =
      anySeverity :: severities := by decide
  rw [severityElement, Element.selected_ofChoice_of_nodup (hvalues ▸ by decide), hvalues]

/-- A severity can be chosen exactly if it is among those offered. -/
theorem isListed_iff {severity : Option String} (hne : severity ≠ some anySeverity) :
    IsListed severity ↔ severity.getD anySeverity ∈ anySeverity :: severities := by
  cases severity with
  | none => exact iff_of_true nofun List.mem_cons_self
  | some s =>
    have hs : s ≠ anySeverity := fun h => hne (congrArg some h)
    simp [IsListed, hs]

/-- A choice without a marked option reads its first one. -/
theorem severityElement_of_not_listed {severity : Option String}
    (hne : severity ≠ some anySeverity) (hl : ¬ IsListed severity) :
    (severityElement severity).selected = [] ∧
      (severityElement severity).reads? = some anySeverity := by
  have hselected : (severityElement severity).selected = [] := by
    rw [selected_severityElement, if_neg (mt (isListed_iff hne).mpr hl)]
  refine ⟨hselected, ?_⟩
  rw [Element.reads?, hselected, choices_severityElement]
  rfl

/-- A severity that can be chosen is marked and read. -/
theorem severityElement_of_listed {severity : Option String} (hne : severity ≠ some anySeverity)
    (hl : IsListed severity) :
    (severityElement severity).selected = [severity.getD anySeverity] ∧
      (severityElement severity).reads? = some (severity.getD anySeverity) := by
  have hselected : (severityElement severity).selected = [severity.getD anySeverity] := by
    rw [selected_severityElement, if_pos ((isListed_iff hne).mp hl)]
  refine ⟨hselected, ?_⟩
  rw [Element.reads?, hselected]
  rfl

/-- Whatever a tab on findings has loaded and whatever commands have come, its view has one choice
    of a severity where it has a section on findings, and none elsewhere. The choice has one option
    marked, that of the filter in force, if it has an option for that, and reads it. For any other
    filter no option is marked, and the choice reads that all severities are shown. -/
theorem severity_choice_tells_iff (cap historyLimit : Nat) (history : List Tab.Deed)
    (now : Time.Instant) :
    let asked := severityAsked history
    ∃ s : State, (Tab.new .slop cap historyLimit).replay history = .slop s ∧
      s.filter.severity = asked ∧
      (s.severityControls now).length = (if s.showsFindings then 1 else 0) ∧
      ∀ e ∈ s.severityControls now, e.choices = anySeverity :: severities ∧
        (e.selected = [asked.getD anySeverity] ↔ IsListed asked) ∧
        (e.reads? = some (asked.getD anySeverity) ↔ IsListed asked) ∧
        (¬ IsListed asked → e.selected = [] ∧ e.reads? = some anySeverity ∧ asked ≠ none) := by
  intro asked
  obtain ⟨s, hs, hseverity⟩ := filter_replay cap historyLimit history
  have hne : asked ≠ some anySeverity := severityAsked_ne_all history
  refine ⟨s, hs, hseverity, ?one, fun e he => ?_⟩
  case one =>
    rw [s.severityControls_eq now]
    cases s.showsFindings <;> rfl
  obtain rfl : e = severityElement asked := by
    rw [s.severityControls_eq now, hseverity] at he
    split at he
    · exact List.mem_singleton.mp he
    · cases he
  refine ⟨choices_severityElement asked, ?_⟩
  by_cases hl : IsListed asked
  · obtain ⟨hselected, hreads⟩ := severityElement_of_listed hne hl
    exact ⟨iff_of_true hselected hl, iff_of_true hreads hl, fun h => absurd hl h⟩
  · obtain ⟨hselected, hreads⟩ := severityElement_of_not_listed hne hl
    have hnone : asked ≠ none := fun h => hl (h ▸ nofun)
    refine ⟨iff_of_false (by rw [hselected]; nofun) hl, iff_of_false ?_ hl,
      fun _ => ⟨hselected, hreads, hnone⟩⟩
    -- The filter would have to be the word for all severities.
    intro h
    obtain ⟨severity, hsome⟩ := Option.ne_none_iff_exists'.mp hnone
    rw [hreads, hsome, Option.getD_some] at h
    exact hne (hsome.trans h.symm)

/-- A finding is loaded, and the severity `critical` is asked for. That hides the finding, but no
    option is marked and the choice reads that all severities are shown. -/
theorem unlisted_severity_reads_all :
    let found : Tab.Report :=
      ⟨[⟨findingsMethod, .ok (.array [.object [("file", .string "a.rs")]])⟩]⟩
    let ask : Command :=
      { name := Verb.filterSeverity.word, arguments := [("severity", .string "critical")] }
    ∃ s : State, (Tab.new .slop 3 20).replay [.command ask, .complete 1 found, .begin] = .slop s ∧
      s.showsFindings = true ∧ s.filter.severity = some "critical" ∧
      (s.load.snapshot.bind (·.findings)).map (fun found =>
        (found.length, (s.filter.visible found).length)) = some (1, 0) ∧
      (s.severityControls ⟨0, 0⟩).map (fun e => (e.selected, e.reads?)) = [([], some "all")] := by
  refine ⟨_, rfl, ?_, ?_, ?_, ?_⟩ <;> decide +kernel

end Dashboard.Slop
