import Dashboard.Proofs.ControlEvents
import Dashboard.Tab.Selector
/-!
# The elements of a view that a test picks

* `Node.pick` — the elements of some nodes that pass a test; `pick_cons_of_every`, `pick_element` and
  others — node by node.
* `pick_panelSectionWith`, `LoadState.pick_content` — a view holds what its sections hold, if the
  test passes over elements that do nothing.
* `choices_ofChoice`, `selected_ofChoice` — what a choice offers and what is marked in it.
-/

namespace Dashboard

namespace Markup

open Node

variable {ρ : Type} {test : Element ρ → Bool} {ns ms : List (Node ρ)} {n : Node ρ}

/-- The elements of some nodes that pass a test, in the order of their start tags. -/
def Node.pick (test : Element ρ → Bool) (ns : List (Node ρ)) : List (Element ρ) :=
  (elementsAll ns).filter test

/-- The elements of nodes one after another. -/
theorem Node.elementsAll_append (ns ms : List (Node ρ)) :
    elementsAll (ns ++ ms) = elementsAll ns ++ elementsAll ms := by
  induction ns with
  | nil => simp [elementsAll]
  | cons n ns ih => simp [elementsAll, ih]

theorem pick_singleton : pick test [n] = n.elements.filter test := by
  rw [pick, elementsAll, elementsAll, List.append_nil]

theorem pick_append : pick test (ns ++ ms) = pick test ns ++ pick test ms := by
  rw [pick, elementsAll_append, List.filter_append, pick, pick]

theorem pick_cons : pick test (n :: ns) = pick test [n] ++ pick test ns :=
  @pick_append _ _ [n] ns

/-- Nothing is picked where no element passes the test. -/
theorem pick_eq_nil (h : EveryAll (test · = false) ns) : pick test ns = [] :=
  List.filter_eq_nil_iff.mpr fun e he => Bool.eq_false_iff.mp (h e he)

/-- Of a node without an element that passes nothing is picked. -/
theorem pick_of_every (h : Every (test · = false) n) : pick test [n] = [] :=
  pick_eq_nil ((everyAll_cons n []).mpr ⟨h, everyAll_nil⟩)

/-- A node without an element that passes is passed over. -/
theorem pick_cons_of_every (h : Every (test · = false) n) : pick test (n :: ns) = pick test ns := by
  rw [pick_cons, pick_of_every h, List.nil_append]

/-- Of an element that does not pass, those of its children are picked that do. -/
theorem pick_element {tag : Tag} {as : List Attribute} (h : test ⟨tag, as, ns⟩ = false) :
    pick test [element tag as ns] = pick test ns := by
  rw [pick_singleton, elements, List.filter_cons_of_neg (Bool.eq_false_iff.mp h)]
  rfl

/-- Of an element that passes, it is picked first. -/
theorem pick_element_self {tag : Tag} {as : List Attribute} (h : test ⟨tag, as, ns⟩ = true) :
    pick test [element tag as ns] = ⟨tag, as, ns⟩ :: pick test ns := by
  rw [pick_singleton, elements, List.filter_cons_of_pos h]
  rfl

section

variable (hp : ∀ e : Element ρ, e.isInert = true → test e = false)

include hp

/-- A section holds what stands beside its title and then what stands below it. -/
theorem pick_panelSectionWith {title : String} {actions children : List (Node ρ)} :
    pick test [panelSectionWith title actions children] =
      pick test actions ++ pick test children := by
  have htitle : Every (test · = false) (labelled .h3 title : Node ρ) :=
    (every_labelled hp title (by decide)).mpr trivial
  rw [panelSectionWith, classed, pick_element (hp _ rfl), pick_cons, classed,
    pick_element (hp _ rfl), pick_cons_of_every htitle, classed, pick_element (hp _ rfl)]

/-- The element of a choice among values with labels. -/
def Element.ofChoice (action : String) (options : List (String × String)) (chosen : String) :
    Element ρ :=
  ⟨.select, [.plain .action action], options.map fun o =>
    element .option (.plain .value o.1 :: Attribute.flagIf (o.1 == chosen) .selected) [text o.2]⟩

/-- A choice that passes is picked, and none of its options. -/
theorem pick_choice {action : String} {options : List (String × String)} {chosen : String}
    (h : test (Element.ofChoice action options chosen) = true) :
    pick test [choice action options chosen] = [Element.ofChoice action options chosen] := by
  have hoptions : EveryAll (test · = false)
      (Element.ofChoice action options chosen : Element ρ).children := by
    refine (everyAll_map ..).mpr fun o _ => (every_inert hp _ rfl ?_).mpr (by simp)
    cases o.1 == chosen <;> rfl
  exact (pick_element_self h).trans (congrArg _ (pick_eq_nil hoptions))

end

namespace Element

variable {action chosen : String} {options : List (String × String)}

@[simp] theorem choices_ofChoice :
    (ofChoice action options chosen : Element ρ).choices = options.map (·.1) := by
  rw [choices, ofChoice, List.filterMap_map, ← List.filterMap_eq_map]
  rfl

/-- In a choice the options are marked that have the chosen value. -/
@[simp] theorem selected_ofChoice :
    (ofChoice action options chosen : Element ρ).selected =
      (options.map (·.1)).filter (· == chosen) := by
  have hmarked (o : String × String) :
      (.plain .value o.1 :: Attribute.flagIf (o.1 == chosen) .selected : List Attribute).contains
        (.flag .selected) = (o.1 == chosen) := by
    cases o.1 == chosen <;> rfl
  rw [selected, ofChoice, List.filter_map, List.filterMap_map, List.filter_map,
    ← List.filterMap_eq_map]
  congr 1
  exact List.filter_congr fun o _ => hmarked o

/-- If the values differ, the chosen one alone is marked, or none if it is not offered. -/
theorem selected_ofChoice_of_nodup (hn : (options.map (·.1)).Nodup) :
    (ofChoice action options chosen : Element ρ).selected =
      if chosen ∈ options.map (·.1) then [chosen] else [] := by
  rw [selected_ofChoice, List.filter_beq, hn.count]
  split <;> rfl

end Element

/-! ### Elements that are there for an action -/

section

variable {action word : String}

/-- The controls of an action are picked from the elements of a node. -/
theorem controls_eq_pick : n.controls action = pick (·.isFor action) [n] := pick_singleton.symm

/-- An element that is no control asks for no action. -/
theorem Element.isFor_of_isInert (e : Element ρ) (h : e.isInert = true) :
    e.isFor action = false := by
  rw [isFor, action?_of_isInert h]
  rfl

/-- A control of one action is a control of no other. -/
theorem Element.isFor_of_action? {e : Element ρ} (h : e.action? = some word)
    (hne : word ≠ action) : e.isFor action = false := by
  rw [isFor, h]
  exact beq_eq_false_iff_ne.mpr fun heq => hne (Option.some.inj heq)

/-- A button of another action is passed over. -/
theorem every_actionButton (hne : word ≠ action) (label : String) (data : List (String × String)) :
    Every (·.isFor action = false) (actionButton label word data : Node ρ) :=
  (every_element ..).mpr ⟨Element.isFor_of_action? rfl hne, by simp⟩

/-- A button to try again is passed over if it asks for another action. -/
theorem every_retryButton (hne : word ≠ action) :
    Every (·.isFor action = false) (retryButton word) :=
  (every_element ..).mpr ⟨Element.isFor_of_action? rfl hne, by simp⟩

/-- A switch of another action is passed over. -/
theorem every_toggle (hne : word ≠ action) (on : Bool) (data : List (String × String)) :
    Every (·.isFor action = false) (toggle word on data : Node ρ) :=
  (every_element ..).mpr ⟨Element.isFor_of_action? rfl hne, everyAll_nil⟩

/-- A choice is there for its action. -/
theorem pick_choice_self (options : List (String × String)) (chosen : String) :
    pick (·.isFor action) [(choice action options chosen : Node ρ)] =
      [Element.ofChoice action options chosen] :=
  pick_choice Element.isFor_of_isInert (beq_self_eq_true (some action))

end

end Markup

open Markup Markup.Node

/-! ### The view of a tab -/

section

variable {test : Element Empty → Bool} (hp : ∀ e : Element Empty, e.isInert = true → test e = false)

include hp

/-- A view holds what the view of its snapshot holds, if the button that tries again does not
    pass. -/
theorem Tab.LoadState.pick_content {σ : Type} (s : LoadState σ) (p : Presentation σ)
    (hretry : Every (test · = false) (retryButton p.retry)) :
    pick test [s.content p] = (s.snapshot.map fun x => pick test (p.data x)).getD [] := by
  cases hs : s.snapshot with
  | none =>
    have hnone : Every (test · = false) (s.content p) :=
      s.every_content hp p hretry fun x hx => by cases hs.symm.trans hx
    exact pick_of_every hnone
  | some x =>
    have hstale : EveryAll (test · = false) (s.lastError.toList.map staleBanner) :=
      (everyAll_map ..).mpr fun reason _ => (every_staleBanner hp reason).mpr trivial
    have hbranch : s.branch = .data x s.lastError := by rw [branch, hs]
    rw [content, tabContent, pick_element (hp _ rfl), hbranch, pick_append, pick_eq_nil hstale]
    rfl

end

end Dashboard
