import Dashboard.Context.Usage
import Dashboard.Proofs.NumberText
import Dashboard.Proofs.PickedElements
/-!
# When the use of the context is told exactly

The used tokens are multiplied by one hundred before they are divided by the limit, and a product
that no count holds is cut. So the share, the badge and the bar are those of exact arithmetic for
some amounts and not for all.

* `cut_div_eq_iff` — when to cut before a division is as good as to cut after it.
* `Context.Snapshot.usagePercent?_eq`, `Context.State.badge_eq` — the share and the badge.
* `Context.IsOther`, `Context.State.usageBars_eq` — nothing in the view is a usage bar but one
  element, which is marked as the share asks.
* `Context.usage_is_exact_iff` — when share, badge and bar are exact.
* `Context.full_context_unmarked` — a context that is full, and neither badge nor bar tell it.
-/

namespace Dashboard

open Markup Markup.Node

/-- To cut a number before it is divided is as good as to cut the quotient if nothing is cut, if
    nothing is divided, or if what is cut off does not matter to the quotient, and only then. -/
theorem cut_div_eq_iff {limit most : Nat} (hlimit : 0 < limit) (hmost : 0 < most) (n : Nat) :
    min n most / limit = min (n / limit) most ↔
      n ≤ most ∨ limit = 1 ∨ most / limit = n / limit := by
  have hdiv : n / limit ≤ n := Nat.div_le_self n limit
  by_cases hn : n ≤ most
  · rw [Nat.min_eq_left hn, Nat.min_eq_left (Nat.le_trans hdiv hn)]
    exact iff_of_true rfl (.inl hn)
  have hlt : most < n := Nat.lt_of_not_le hn
  rw [Nat.min_eq_right (Nat.le_of_lt hlt)]
  by_cases hone : limit = 1
  · subst hone
    rw [Nat.div_one, Nat.div_one, Nat.min_eq_right (Nat.le_of_lt hlt)]
    exact iff_of_true rfl (.inr (.inl rfl))
  -- Divided by two or more, the largest number is less than what the quotient would be cut to.
  have hsmall : most / limit < most := Nat.div_lt_self hmost (by omega)
  omega

namespace Context

variable {s : State} {x : Snapshot} {limit : Nat}

/-! ### The share and the badge -/

/-- The share that is told: the hundredths are cut to what a count holds before they are divided. -/
theorem Snapshot.usagePercent?_eq (hl : x.limit = some limit) :
    x.usagePercent? = some (min (100 * x.used) Count.max / limit) := by
  rw [usagePercent?, hl, Option.map_some, Count.mul, Nat.mul_comm]

/-- The share that is told is critical if so many hundredths of the limit are used, and a count
    holds as many of the limit. -/
theorem critical_iff (hpos : 0 < limit) (used : Nat) :
    criticalPercent ≤ min (100 * used) Count.max / limit ↔
      90 * limit ≤ 100 * used ∧ 90 * limit ≤ Count.max := by
  rw [Nat.le_div_iff_mul_le hpos]
  exact Nat.le_min

/-- The exact share is critical if so many hundredths of the limit are used. -/
theorem critical_exact_iff (hpos : 0 < limit) (used : Nat) :
    criticalPercent ≤ exactPercent used limit ↔ 90 * limit ≤ 100 * used := by
  rw [exactPercent, Nat.le_min, Nat.le_div_iff_mul_le hpos]
  exact and_iff_left (by decide)

/-- Different shares have different warnings. -/
theorem usageWarning_injective {p q : Nat} (h : usageWarning p = usageWarning q) : p = q := by
  have htext : toString p ++ "%" = toString q ++ "%" := congrArg Badge.text h
  exact toString_nat_injective (String.append_left_inj "%" |>.mp htext)

/-- The badge warns if the share that is told is critical, and there is none otherwise. -/
theorem State.badge_eq (hs : s.load.snapshot = some x) (hl : x.limit = some limit)
    (hpos : 0 < limit) :
    s.badge =
      if 90 * limit ≤ 100 * x.used ∧ 90 * limit ≤ Count.max then
        some (usageWarning (min (100 * x.used) Count.max / limit))
      else none := by
  have herror : s.load.errorBadge = none := by
    rw [Tab.LoadState.errorBadge, Tab.LoadState.branch, hs]
  rw [badge, Tab.LoadState.badge, herror, Option.none_or, hs, Option.bind_some,
    Snapshot.usagePercent?_eq hl]
  simp only [← critical_iff hpos x.used, Option.filter_some, decide_eq_true_eq]
  split
  · rfl
  · rfl

/-! ### The bar -/

/-- An element that is no usage bar. -/
def IsOther (e : Element Empty) : Prop := isUsageBar e = false

section

variable {tag : Tag} {classes : String} {ns : List (Node Empty)}

/-- An element without classes is no usage bar. -/
theorem isOther_of_labels {e : Element Empty} (h : ∀ a ∈ e.attributes, a.label ≠ "class") :
    IsOther e := by
  have hlookup : (e.attributes.map Attribute.reading).lookup "class" = none := by
    rw [List.lookup_eq_none_iff]
    intro p hp
    obtain ⟨a, ha, rfl⟩ := List.mem_map.mp hp
    exact bne_iff_ne.mpr (h a ha).symm
  rw [IsOther, isUsageBar, Element.hasClass, Token.hasClass, hlookup]

/-- An element of other classes hides a usage bar only inside. -/
theorem isOther_classed (h : (Token.words classes.toList).contains "usage-bar".toList = false) :
    Every IsOther (classed tag classes ns) ↔ EveryAll IsOther ns := by
  rw [classed, every_element]
  exact and_iff_right h

/-- An element without attributes hides a usage bar only inside. -/
theorem isOther_bare : Every IsOther (bare tag ns) ↔ EveryAll IsOther ns := by
  rw [bare, every_element]
  exact and_iff_right rfl

/-- A text hides no usage bar. -/
theorem isOther_labelled {message : String} : Every IsOther (labelled tag message) := by
  rw [labelled, every_element]
  exact ⟨rfl, by simp⟩

/-- A button hides no usage bar. -/
theorem isOther_button (label action : String) : Every IsOther (actionButton label action []) := by
  rw [actionButton, every_element]
  exact ⟨rfl, by simp⟩

/-- The icon of a warning hides no usage bar. -/
theorem isOther_warningIcon : Every IsOther (icon "warning") :=
  (isOther_classed (by decide +kernel)).mpr everyAll_nil

/-- The icon of an empty context hides no usage bar. -/
theorem isOther_layersIcon : Every IsOther (icon "layers") :=
  (isOther_classed (by decide +kernel)).mpr everyAll_nil

theorem isOther_staleBanner (message : String) : Every IsOther (staleBanner message) := by
  simp (disch := decide) [staleBanner, isOther_classed, isOther_warningIcon]

theorem isOther_statGrid (items : List (String × String)) : Every IsOther (statGrid items) := by
  simp (disch := decide) [statGrid, isOther_classed]

/-- A row of the table hides no usage bar. -/
theorem isOther_row (i : Item) : Every IsOther i.row := by
  have htoggle : Every IsOther (toggle Verb.pin.word i.pinned [("id", i.id)]) := by
    rw [toggle, every_element]
    refine ⟨isOther_of_labels ?_, everyAll_nil⟩
    cases i.pinned <;>
      simp [Attribute.ofPairs, Attribute.flagIf, Attribute.label, Attribute.Name.text,
        Attribute.Flag.text]
  simp (disch := decide) [Item.row, tableRow, isOther_classed, isOther_bare, htoggle]

/-- The table of the parts hides no usage bar. -/
theorem isOther_items (items : List Item) :
    Every IsOther (panelSection "Items"
      [ if items.isEmpty then emptyState "layers" "The context is empty"
        else table "context-items" ["Pin", "Item", "Kind", "Tokens"] (items.map Item.row) ]) := by
  split
  · simp (disch := decide) [panelSection, emptyState, isOther_classed, isOther_labelled,
      isOther_layersIcon]
  · simp (disch := decide) [panelSection, table, tableHead, isOther_classed, isOther_bare,
      isOther_labelled, isOther_row]

/-- The bar that shows so many hundredths. -/
def bar (percent : Nat) : Element Empty where
  tag := .div
  attributes :=
    [.plain .classes ("usage-bar" ++ if criticalPercent ≤ percent then " usage-critical" else "")]
  children := [element .div [.plain .style ("width: " ++ toString (min percent 100) ++ "%")] []]

/-- The bar is a usage bar, and it is marked exactly if the share is critical. -/
theorem hasClass_bar (percent : Nat) :
    isUsageBar (bar percent) = true ∧
      ((bar percent).hasClass "usage-critical" = true ↔ criticalPercent ≤ percent) := by
  have hwords (name : String) : (bar percent).hasClass name = (Token.words ("usage-bar" ++
      if criticalPercent ≤ percent then " usage-critical" else "").toList).contains name.toList :=
    rfl
  rw [isUsageBar, hwords, hwords]
  by_cases h : criticalPercent ≤ percent
  · rw [if_pos h]
    exact ⟨by decide, iff_of_true (by decide) h⟩
  · rw [if_neg h]
    exact ⟨by decide, iff_of_false (by decide) h⟩

/-- The usage bars among the elements of some nodes. -/
def barsOf (ns : List (Node Empty)) : List (Element Empty) := (elementsAll ns).filter isUsageBar

theorem barsOf_eq_pick (ns : List (Node Empty)) : barsOf ns = pick isUsageBar ns := rfl

/-- The part that shows the usage has the one bar. -/
theorem barsOf_usageBar (percent : Nat) : barsOf (usageBar percent) = [bar percent] := by
  have hinner : EveryAll IsOther (bar percent).children :=
    (everyAll_cons _ _).mpr ⟨(every_element ..).mpr ⟨rfl, everyAll_nil⟩, everyAll_nil⟩
  have hremark : Every IsOther (remark (toString percent ++ "% of context in use")) := by
    simp (disch := decide) [remark, isOther_classed]
  calc
    barsOf (usageBar percent)
      = pick isUsageBar [element .div (bar percent).attributes (bar percent).children] ++
          pick isUsageBar [remark (toString percent ++ "% of context in use")] := pick_cons
    _ = [bar percent] := by
      rw [pick_of_every hremark, List.append_nil]
      exact (pick_element_self (hasClass_bar percent).1).trans (congrArg _ (pick_eq_nil hinner))

/-- The view of a snapshot has one bar, with the share that is told. -/
theorem barsOf_view (hl : x.limit = some limit) :
    barsOf x.view = [bar (min (100 * x.used) Count.max / limit)] := by
  -- The header of the section and the table beneath it have no bar.
  have hheader : Every IsOther
      (classed .div "section-header"
        [ labelled .h3 "Usage"
        , classed .div "section-actions"
            [ actionButton "Clear" Verb.clear.word []
            , actionButton "Refresh" Verb.refresh.word [] ] ]) := by
    simp (disch := decide) [isOther_classed, isOther_labelled, isOther_button]
  have hpart {ns : List (Node Empty)} :
      IsOther ⟨.part, [.plain .classes "panel-section"], ns⟩ := by rfl
  rw [Snapshot.view, Snapshot.usagePercent?_eq hl, Option.map_some, Option.getD_some,
    barsOf_eq_pick, pick_cons, pick_of_every (isOther_items x.items), List.append_nil,
    panelSectionWith, classed, pick_element hpart, pick_cons_of_every hheader,
    pick_cons_of_every (isOther_statGrid _)]
  exact barsOf_usageBar _

end

/-- Whatever the context holds, its view has one usage bar if a limit is known, that of the share
    that is told. -/
theorem State.usageBars_eq (hs : s.load.snapshot = some x) (hl : x.limit = some limit)
    (now : Time.Instant) : s.usageBars now = [bar (min (100 * x.used) Count.max / limit)] := by
  -- Neither the banner of an error nor the frame of the content is a bar.
  have hstale : EveryAll IsOther (s.load.lastError.toList.map staleBanner) :=
    (everyAll_map ..).mpr fun message _ => isOther_staleBanner message
  have hcontent {ns : List (Node Empty)} :
      IsOther ⟨.div, [.plain .classes "tab-content", .plain .tabId identity.id], ns⟩ := by rfl
  calc
    s.usageBars now = barsOf [s.content now] := by
      rw [usageBars, barsOf, elementsAll, elementsAll, List.append_nil]
    _ = barsOf (s.load.lastError.toList.map staleBanner ++ x.view) := by
      rw [content, Tab.LoadState.content, tabContent, barsOf_eq_pick, pick_element hcontent,
        Tab.LoadState.branch, hs]
      rfl
    _ = [bar (min (100 * x.used) Count.max / limit)] := by
      rw [barsOf_eq_pick, pick_append, pick_eq_nil hstale, List.nil_append, ← barsOf_eq_pick,
        barsOf_view hl]

/-- A tab that has loaded a context with a limit tells its share as the product with one hundred
    allows that a count can hold. The share is exact if nothing was cut off that product or nothing
    of it matters; the badge is the exact one if the share is or if there is nothing to warn of; and
    the bar of the view is marked in the right cases if a count holds ninety times the limit or if
    there is nothing to mark. -/
theorem usage_is_exact_iff (hs : s.load.snapshot = some x) (hl : x.limit = some limit)
    (hpos : 0 < limit) (now : Time.Instant) :
    let told := min (100 * x.used) Count.max / limit
    let exact := exactPercent x.used limit
    let critical := 90 * limit ≤ 100 * x.used
    x.usagePercent? = some told ∧
      (told = exact ↔ 100 * x.used ≤ Count.max ∨ limit = 1 ∨
        Count.max / limit = 100 * x.used / limit) ∧
      s.badge = (if critical ∧ 90 * limit ≤ Count.max then some (usageWarning told) else none) ∧
      ((s.badge = if critical then some (usageWarning exact) else none) ↔
        ¬ critical ∨ told = exact) ∧
      ∃ bar, s.usageBars now = [bar] ∧
        (bar.hasClass "usage-critical" = true ↔ critical ∧ 90 * limit ≤ Count.max) ∧
        ((bar.hasClass "usage-critical" = true ↔ critical) ↔
          ¬ critical ∨ 90 * limit ≤ Count.max) := by
  intro told exact critical
  have htold : criticalPercent ≤ told ↔ critical ∧ 90 * limit ≤ Count.max :=
    critical_iff hpos x.used
  have hexact : criticalPercent ≤ exact ↔ critical := critical_exact_iff hpos x.used
  have hbadge := State.badge_eq hs hl hpos
  have hmark := (hasClass_bar told).2.trans htold
  refine ⟨Snapshot.usagePercent?_eq hl, cut_div_eq_iff hpos (by decide) _, hbadge, ?_,
    bar told, State.usageBars_eq hs hl now, hmark, ?_⟩
  · rw [hbadge]
    by_cases hcritical : critical
    · by_cases hfits : 90 * limit ≤ Count.max
      · rw [if_pos ⟨hcritical, hfits⟩, if_pos hcritical, Option.some_inj]
        exact ⟨fun h => .inr (usageWarning_injective h), fun h =>
          congrArg usageWarning (h.resolve_left (not_not_intro hcritical))⟩
      · -- The badge is missing, and what is told is below what would be critical.
        have hne : told ≠ exact := by
          intro h
          exact hfits (htold.mp (h ▸ hexact.mpr hcritical)).2
        rw [if_neg fun h => hfits h.2, if_pos hcritical]
        exact iff_of_false nofun (not_or.mpr ⟨not_not_intro hcritical, hne⟩)
    · rw [if_neg fun h => hcritical h.1, if_neg hcritical]
      exact iff_of_true rfl (.inl hcritical)
  · -- The bar is marked by what is told, which differs from the exact share only where that is
    -- critical.
    rw [hmark]
    by_cases hcritical : critical
    · simp [hcritical]
    · simp [hcritical]

/-- Of a limit of two hundred thousand tokens 185,000 are 92 hundredths. -/
theorem usage_is_exact_iff_near_limit :
    let x : Snapshot := { used := 185000, limit := some 200000 }
    let s : State := { load := { snapshot := some x, attempts := { cap := 3 } } }
    (s.load.snapshot = some x ∧ x.limit = some 200000 ∧ 0 < 200000) ∧
      x.usagePercent? = some (exactPercent 185000 200000) ∧ s.badge = some (usageWarning 92) := by
  intro x s
  obtain ⟨hshare, hexact, hbadge, -⟩ :=
    @usage_is_exact_iff s x 200000 rfl rfl (by decide) ⟨0, 0⟩
  have hused : 100 * x.used ≤ Count.max := by decide +zetaReduce
  have hcritical : 90 * 200000 ≤ 100 * x.used ∧ 90 * 200000 ≤ Count.max := by decide +zetaReduce
  have htold : min (100 * x.used) Count.max / 200000 = 92 := by decide +zetaReduce
  refine ⟨⟨rfl, rfl, by decide⟩, ?_, ?_⟩
  · rw [hshare, hexact.mpr (.inl hused)]
  · rw [hbadge, if_pos hcritical, htold]

/-- A load tells a context of `2 ^ 60` tokens that is full. The share that is told of it is fifteen
    hundredths, there is no badge, and the bar in the view is not marked. -/
theorem full_context_unmarked :
    let report : Tab.Report :=
      ⟨[⟨"getContext", .ok (.object [("tokenLimit", .int 1152921504606846976),
        ("tokensUsed", .int 1152921504606846976)])⟩]⟩
    let load : Tab.LoadState Snapshot := Tab.LoadState.new 3
    let s : State := ⟨(load.begin.2.complete 1 report Snapshot.ofReport).2⟩
    (s.load.snapshot.bind (·.usagePercent?) = some 15 ∧
      exactPercent 1152921504606846976 1152921504606846976 = 100) ∧
      s.badge = none ∧ (s.usageBars ⟨0, 0⟩).any (·.hasClass "usage-critical") = false := by
  decide +kernel

end Context

end Dashboard
