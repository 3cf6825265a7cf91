import Dashboard.Proofs.LoadQueries
import Dashboard.Proofs.NumberText
import Dashboard.Proofs.PickedElements
import Dashboard.Tab.Choice
import Dashboard.Tab.Selector
/-!
# The limit of past runs that is in force

A command may ask for any number of past runs. The number is cut, and the tab is loaded at once with
it, so the runs that are shown once no load is in flight are those that the limit asks for.

* `Cron.ascending_offeredLimits` — the limits that are offered ascend, with the one in force among
  them.
* `Cron.State.limitControls_eq` — the view of a snapshot has one choice of a limit.
* `Tab.IsLimited` — what every step of the job tab keeps of the limit.
* `history_limit_in_force` — what the loads of a session ask for, and what the view tells.
-/

namespace Dashboard

open Markup Markup.Node Panel Session Relation

namespace Cron

/-! ### The limits that are offered -/

/-- A number is put in its place among ascending ones. -/
theorem pairwise_insert {n : Nat} {ns : List Nat} (hs : ns.Pairwise (· < ·)) (hn : n ∉ ns) :
    (ns.takeWhile (· < n) ++ n :: ns.dropWhile (· < n)).Pairwise (· < ·) := by
  induction ns with
  | nil => simp
  | cons m ns ih =>
    obtain ⟨hm, hns⟩ := List.pairwise_cons.mp hs
    obtain ⟨hne, hn⟩ := List.ne_and_not_mem_of_not_mem_cons hn
    by_cases hlt : m < n
    · -- The number stands further behind.
      rw [List.takeWhile_cons_of_pos (by simpa), List.dropWhile_cons_of_pos (by simpa)]
      refine List.pairwise_cons.mpr ⟨fun k hk => ?_, ih hns hn⟩
      rcases List.mem_append.mp hk with hk | hk
      · exact hm k (List.takeWhile_subset _ hk)
      · rcases List.mem_cons.mp hk with rfl | hk
        · exact hlt
        · exact hm k (List.dropWhile_subset _ hk)
    · -- The number stands in front of all that is left.
      have hgt : n < m := Nat.lt_of_le_of_ne (Nat.not_lt.mp hlt) hne
      rw [List.takeWhile_cons_of_neg (by simpa using hlt),
        List.dropWhile_cons_of_neg (by simpa using hlt)]
      refine List.pairwise_cons.mpr ⟨fun k hk => ?_, hs⟩
      rcases List.mem_cons.mp hk with rfl | hk
      · exact hgt
      · exact Nat.lt_trans hgt (hm k hk)

/-- The limits that are offered ascend. -/
theorem ascending_offeredLimits (limit : Nat) : (offeredLimits limit).Pairwise (· < ·) := by
  have husual : usualLimits.Pairwise (· < ·) := by decide
  rw [offeredLimits]
  split
  · exact husual
  · rename_i hnone
    exact pairwise_insert husual (by simpa using hnone)

/-- The limit in force is offered. -/
theorem mem_offeredLimits (limit : Nat) : limit ∈ offeredLimits limit := by
  rw [offeredLimits]
  split
  · rename_i husual
    simpa using husual
  · exact List.mem_append_right _ List.mem_cons_self

/-! ### The choice in the view -/

/-- The choice that shows a limit. -/
def limitElement (limit : Nat) : Element Empty :=
  .ofChoice Verb.setHistoryLimit.word
    ((offeredLimits limit).map fun n => (toString n, "Last " ++ toString n)) (toString limit)

/-- The choice of a limit offers the one in force among others, marked and read. -/
theorem offers_limitElement (limit : Nat) : Offers limit (limitElement limit) := by
  have hvalues : ((offeredLimits limit).map fun n => (toString n, "Last " ++ toString n)).map
      (·.1) = (offeredLimits limit).map toString := List.map_map
  have hnodup : ((offeredLimits limit).map toString).Nodup :=
    ((ascending_offeredLimits limit).imp Nat.ne_of_lt).map _ fun _ _ h heq =>
      h (toString_nat_injective heq)
  have hmem : toString limit ∈ (offeredLimits limit).map toString :=
    List.mem_map_of_mem (mem_offeredLimits limit)
  have hselected : (limitElement limit).selected = [toString limit] := by
    rw [limitElement, Element.selected_ofChoice_of_nodup (hvalues ▸ hnodup), hvalues, if_pos hmem]
  refine ⟨⟨offeredLimits limit, ?_, ascending_offeredLimits limit⟩, hselected, ?_⟩
  · rw [limitElement, Element.choices_ofChoice, hvalues]
  · rw [Element.reads?, hselected]
    rfl

/-- The view has one choice of a limit. -/
theorem pick_view (x : Snapshot) (limit : Nat) (now : Time.Instant) :
    pick (·.isFor Verb.setHistoryLimit.word) (x.view limit now) = [limitElement limit] := by
  have hp : ∀ e : Element Empty, e.isInert = true → e.isFor Verb.setHistoryLimit.word = false :=
    Element.isFor_of_isInert
  have hscheduler := every_schedulerSwitch hp x.scheduler fun on => every_toggle (by decide) on []
  have hrefresh : Every (·.isFor Verb.setHistoryLimit.word = false)
      (actionButton "Refresh" Verb.refresh.word [] : Node Empty) :=
    every_actionButton (by decide) "Refresh" []
  have hjobs := every_jobs hp x.jobs now fun j _ => every_row hp j now
    (every_toggle (by decide) j.enabled _) (every_actionButton (by decide) "Run now" _)
  have hhistory := every_history hp x.history now
  rw [Snapshot.view, pick_cons, pick_panelSectionWith hp, pick_panelSectionWith hp,
    pick_cons_of_every hscheduler, pick_of_every hrefresh, pick_of_every hjobs,
    pick_of_every hhistory, limitChoice, pick_choice_self]
  rfl

/-- The view has one choice of a limit where it shows a snapshot, and none elsewhere. -/
theorem State.limitControls_eq (s : State) (now : Time.Instant) :
    s.limitControls now = if s.load.snapshot.isSome then [limitElement s.historyLimit] else [] := by
  have hretry := every_retryButton (show Verb.retry.word ≠ Verb.setHistoryLimit.word by decide)
  rw [limitControls, controls_eq_pick, content, s.load.pick_content Element.isFor_of_isInert _
    hretry]
  cases s.load.snapshot with
  | none => rfl
  | some x => exact pick_view x s.historyLimit now

/-! ### What the loads of the tab ask for -/

/-- A load asks for as many past runs as the limit in force. -/
theorem asksFor_queries (s : State) : AsksFor s.historyLimit s.queries := rfl

/-- A limit that is cut can be asked for. -/
theorem clampLimit_range (n : Nat) : 1 ≤ clampLimit n ∧ clampLimit n ≤ maxHistoryLimit := by
  simp only [clampLimit, maxHistoryLimit]
  omega

end Cron

/-! ### What every step keeps -/

/-- A job tab whose limit can be asked for. -/
inductive Tab.IsLimited : Tab → Prop
  | cron {s : Cron.State} (hl : 1 ≤ s.historyLimit) (hm : s.historyLimit ≤ Cron.maxHistoryLimit) :
      IsLimited (.cron s)

namespace Tab.IsLimited

variable {t t' : Tab}

/-- The limit of a new tab can be asked for. -/
theorem new (cap historyLimit : Nat) : (Tab.new .cron cap historyLimit).IsLimited :=
  have hrange := Cron.clampLimit_range historyLimit
  .cron hrange.1 hrange.2

/-- A load that begins leaves the limit. -/
theorem begin (h : t.IsLimited) : t.begin.2.IsLimited := by
  cases h with
  | cron hl hm => exact .cron hl hm

/-- A limit that a command asks for is cut. -/
theorem react (h : t.IsLimited) (c : Command) : (t.react c).1.IsLimited := by
  cases h with
  | @cron s hl hm =>
    have hrange : 1 ≤ (s.react c).1.historyLimit ∧
        (s.react c).1.historyLimit ≤ Cron.maxHistoryLimit := by
      rcases s.historyLimit_react c with heq | ⟨⟨n, -, heq⟩, -⟩ <;> rw [heq]
      · exact ⟨hl, hm⟩
      · exact Cron.clampLimit_range n
    exact .cron hrange.1 hrange.2

/-- Whatever a move makes of the tab, its limit can be asked for. -/
theorem becomes (h : t.IsLimited) (hb : t.Becomes t') : t'.IsLimited := by
  cases hb with
  | rest => exact h
  | begin => exact h.begin
  | complete ticket report =>
    cases h with
    | cron hl hm => exact .cron hl hm
  | command c =>
    rcases t.after_cases c with hafter | ⟨hafter, -⟩ <;> rw [hafter]
    · exact h.react c
    · exact (h.react c).begin

end Tab.IsLimited

/-- In every session on a panel that has a new job tab at a place, whatever commands come and in
    whatever order work is complete: the limit of past runs stays in its range; every load of the tab
    asked for the limit that was in force when it began; the view of a snapshot has one choice of a
    limit, which offers limits in ascending order and has the one in force marked; and once the tab
    has no load in flight, the report that was applied last, if any was, is that of a load that asked
    for this limit. -/
theorem history_limit_in_force {p : Panel} {i cap historyLimit : Nat}
    (hp : p.tabs[i]? = some (.new .cron cap historyLimit)) {x y : Course}
    (hx : Course.Opens p x) (hxy : ReflTransGen Course.Next x y) :
    ∃ s : Cron.State, y.session.panel.tabs[i]? = some (.cron s) ∧
      (1 ≤ s.historyLimit ∧ s.historyLimit ≤ 500) ∧
      (∀ before ticket daemon queries after,
        y.logAt i = before ++ .started (.load i ticket daemon queries) :: after →
        ∃ v s', ReflTransGen Course.Next x v ∧ ReflTransGen Course.Next v y ∧
          v.session.panel.tabs[i]? = some (.cron s') ∧
          v.logAt i = before ++ [.started (.load i ticket daemon queries)] ∧
          Cron.AsksFor s'.historyLimit queries) ∧
      (∀ now, (s.limitControls now).length = (if s.load.snapshot.isSome then 1 else 0) ∧
        ∀ e ∈ s.limitControls now, Cron.Offers s.historyLimit e) ∧
      ((∀ w ∈ y.inFlightAt i, w.isLoad = false) →
        ∀ ticket report, AppliedLast i ticket report (y.logAt i) →
          (∃ daemon queries, .started (.load i ticket daemon queries) ∈ y.logAt i) ∧
          ∀ daemon queries, .started (.load i ticket daemon queries) ∈ y.logAt i →
            Cron.AsksFor s.historyLimit queries) := by
  have htab {y : Course} (hxy : ReflTransGen Course.Next x y) {t : Tab}
      (ht : y.session.panel.tabs[i]? = some t) : t.IsLimited :=
    Course.tab_induction (fun t h => by
      obtain rfl := Option.some.inj (hp.symm.trans h)
      exact .new cap historyLimit) (fun _ _ h hb => h.becomes hb) hx hxy ht
  obtain ⟨t, ht, -⟩ := Course.exists_tab hx hxy hp
  obtain ⟨hl, hm⟩ := htab hxy ht
  rename_i s
  refine ⟨s, ht, ⟨hl, hm⟩, ?calls, ?choice, ?shown⟩
  case calls =>
    intro before ticket daemon queries after hlog
    obtain ⟨v, t', hxv, hvy, ht', hv, hw⟩ := Course.load_moment hx hxy ht rfl hlog
    cases htab hxv ht' with
    | @cron s' =>
      obtain ⟨-, -, -, rfl⟩ := Work.load.inj hw
      exact ⟨v, s', hxv, hvy, ht', hv, Cron.asksFor_queries s'⟩
  case choice =>
    intro now
    rw [s.limitControls_eq now]
    split
    · exact ⟨rfl, fun e he => List.mem_singleton.mp he ▸ Cron.offers_limitElement _⟩
    · exact ⟨rfl, nofun⟩
  case shown =>
    intro hdrained ticket report happlied
    obtain ⟨rfl, hstart⟩ := drained_applied_last hx hxy ht hdrained happlied
    refine ⟨hstart, fun daemon queries hmem => ?_⟩
    rw [latest_load_asks hx hxy ht hmem]
    exact Cron.asksFor_queries s

/-- While the first load is in flight more runs are asked for than there may be. The load that this
    brings ends first, and the first load too late. -/
theorem history_limit_in_force_changed :
    let p : Panel := .ofTabs [.new .cron 3 20]
    let wish : Command := { name := "setCronHistoryLimit", arguments := [("limit", .nat 600)] }
    let report : Tab.Report := ⟨[⟨"getJobs", .done⟩, ⟨"getHistory", .done⟩]⟩
    let v := (Course.first p ⟨0, 0⟩).follow ⟨0, 0⟩ [.receive wish]
    let y := v.follow ⟨0, 0⟩ [.settle 1 (.loaded 0 2 report), .settle 0 (.loaded 0 1 report)]
    p.tabs[0]? = some (.new .cron 3 20) ∧ ReflTransGen Course.Next (Course.first p ⟨0, 0⟩) y ∧
      ∃ s : Cron.State, y.session.panel.tabs[0]? = some (.cron s) ∧ s.historyLimit = 500 ∧
        AppliedLast 0 2 report (y.logAt 0) ∧
        ∃ daemon queries, .started (.load 0 2 daemon queries) ∈ y.logAt 0 ∧
          Cron.AsksFor s.historyLimit queries := by
  intro p wish report v y
  have hy : ReflTransGen Course.Next (Course.first p ⟨0, 0⟩) y :=
    (Course.reaches_of_at (Course.reaches_follow (by decide +kernel))).trans
      (Course.reaches_of_at (Course.reaches_follow (x := v) (by decide +kernel)))
  have hdrained : (y.inFlightAt 0).any Work.isLoad = false := by decide +kernel
  have happlied : AppliedLast 0 2 report (y.logAt 0) := by
    let w := v.after ⟨0, 0⟩ (.settle 1 (.loaded 0 2 report))
    have htaken : v.session.panel.takes (.loaded 0 2 report) = true := by decide +kernel
    have hlate : w.session.panel.takes (.loaded 0 1 report) = false := by decide +kernel
    refine ⟨v.logAt 0, [.ended (.loaded 0 1 report) false], ?_, fun e he => ?_⟩
    · show (w.after ⟨0, 0⟩ (.settle 0 (.loaded 0 1 report))).log.filter _ = _
      rw [Course.log_after, Course.log_after, events, events, htaken, hlate]
      simp [apply, Course.logAt, Event.concerns, Completion.index]
    · rw [List.mem_singleton.mp he]
      rfl
  obtain ⟨s, hs, -, -, -, hshown⟩ := history_limit_in_force (i := 0) rfl (.first ⟨0, 0⟩) hy
  have hlimit : (y.session.panel.tabs[0]?.bind (·.chosen .historyLimit)) =
      some (.number 500) := by decide +kernel
  rw [hs] at hlimit
  obtain ⟨⟨daemon, queries, hstart⟩, hasked⟩ := hshown
    (fun w hw => Bool.eq_false_iff.mpr (List.any_eq_false.mp hdrained w hw)) 2 report happlied
  exact ⟨rfl, hy, s, hs, Tab.Choice.Value.number.inj (Option.some.inj hlimit), happlied, daemon,
    queries, hstart, hasked daemon queries hstart⟩

end Dashboard
