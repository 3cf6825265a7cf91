import Dashboard.Proofs.MarkupReading
import Dashboard.Proofs.ViewElements
/-!
# Views are markup

Whatever a tab has loaded, its view reads as tags that nest and text, with no tag and no attribute
beyond those of the templates.

* `contentTags`, `contentAttributes` — the names in views.
* `Element.OfView` — what the elements of views have in common; none of them is a script, a style
  sheet or the panel of a tab.
* `Tab.every_ofView`, `Tab.piece_content` — the view of a tab.
-/

namespace Dashboard

open Markup Markup.Node

/-! ### Names -/

/-- The names of the elements of views. -/
def contentTags : List String :=
  ["section", "div", "h3", "h4", "p", "span", "code", "label", "table", "thead", "tbody", "tr",
    "th", "td", "ul", "li", "button", "input", "select", "option"]

/-- The names of the attributes in views. -/
def contentAttributes : List String :=
  ["class", "type", "placeholder", "style", "title", "value", "data-action", "data-tab-id",
    "data-name", "data-module", "data-tool", "data-id", "checked", "selected"]

/-- Whether the attributes of an element are all among those of views. -/
def Markup.Attribute.allInViews (as : List Attribute) : Bool :=
  as.all (contentAttributes.contains ·.label)

theorem isName_contentAttributes : ∀ l ∈ contentAttributes, isName l = true := by
  decide +kernel

/-- The elements that stand in views have names that are allowed there. -/
theorem isPlain_mem_contentTags {tag : Tag} (h : tag.isPlain = true) :
    tag.name ∈ contentTags := by
  revert h
  cases tag <;> decide

namespace Markup

variable {ρ : Type}

/-! ### The elements of views -/

/-- An element as it stands in views. Parts have one class, which is none of a panel. -/
structure Element.OfView (e : Element ρ) : Prop where
  tag : e.tag.isPlain = true ∨ e.tag = .part ∧ e.attributes = [.plain .classes "panel-section"]
  attributes : Attribute.allInViews e.attributes = true

/-- Tokens that neither are a script or a style sheet nor start the panel of a tab. -/
def Token.IsQuiet (t : Token) : Prop := t.raw? = none ∧ t.panelTab? = none

/-- A tag other than that of a panel says nothing of panels. -/
theorem Token.isQuiet_opening {name : String} (hn : name ≠ "section")
    (as : List (String × Option String)) : (opening name as).IsQuiet := by
  refine ⟨rfl, ?_⟩
  simp only [panelTab?]
  split
  · next h => exact absurd (Token.opening.inj h).1 hn
  · rfl

/-- An attribute of an element that does nothing is among those of views. -/
theorem Attribute.inViews_of_isInert {a : Attribute} (h : a.isInert = true) :
    contentAttributes.contains a.label = true := by
  cases a with
  | plain name value => cases name <;> first | rfl | cases h
  | flag name => cases name <;> first | rfl | cases h
  | data name value => cases h

/-- An element that does nothing may stand in a view. -/
theorem Element.OfView.of_isInert {e : Element ρ} (h : e.isInert = true) : e.OfView := by
  simp only [Element.isInert, Bool.or_eq_true, Bool.and_eq_true, beq_iff_eq] at h
  rcases h with ⟨htag, has⟩ | h
  · rw [List.all_eq_true] at has
    exact ⟨.inl htag, List.all_eq_true.mpr fun a ha => Attribute.inViews_of_isInert (has a ha)⟩
  · refine ⟨.inr h, ?_⟩
    rw [h.2]
    rfl

namespace Element.OfView

variable {e : Element ρ} (h : e.OfView)

include h

/-- The attributes of an element of a view are among those of views. -/
theorem label_mem : ∀ a ∈ e.attributes, a.label ∈ contentAttributes :=
  fun a ha => List.contains_iff_mem.mp (List.all_eq_true.mp h.attributes a ha)

/-- They have names as markup has them. -/
theorem isName : ∀ a ∈ e.attributes, isName a.label = true :=
  fun a ha => isName_contentAttributes _ (h.label_mem a ha)

/-- The tag of an element of a view is among those of views. -/
theorem tag_mem : e.tag.name ∈ contentTags :=
  h.tag.elim isPlain_mem_contentTags fun hpart => by rw [hpart.1]; decide

/-- Elements of views have the tags and attributes of views. -/
theorem known : e.Known ["input"] (Token.Within contentTags contentAttributes) where
  void_eq := by
    rcases h.tag with htag | ⟨htag, -⟩
    · revert htag
      cases e.tag <;> decide
    · rw [htag]
      decide
  isName := h.isName
  opening := by
    refine ⟨h.tag_mem, ?_⟩
    exact List.forall_mem_map.mpr h.label_mem
  closing := h.tag_mem

/-- Elements of views neither are scripts or style sheets nor panels of tabs. -/
theorem quiet : e.Known ["input", "meta"] Token.IsQuiet where
  void_eq := by cases e.tag <;> decide
  isName := h.isName
  opening := by
    rcases h.tag with htag | ⟨htag, has⟩
    · refine Token.isQuiet_opening ?_ _
      revert htag
      cases e.tag <;> decide
    · rw [htag, has]
      exact ⟨rfl, rfl⟩
  closing := ⟨rfl, rfl⟩

end Element.OfView

end Markup

/-! ### The views of tabs -/

/-- The button for another attempt may stand in a view. -/
theorem ofView_retryButton (action : String) : Every Element.OfView (retryButton action) := by
  rw [retryButton, every_element]
  exact ⟨⟨.inl rfl, rfl⟩, by simp⟩

/-- A button may stand in a view if its data may. -/
theorem ofView_actionButton (label action : String) {data : List (String × String)}
    (hd : Attribute.allInViews (Attribute.ofPairs data) = true) :
    Every Element.OfView (actionButton label action data : Node Empty) := by
  rw [actionButton, every_element]
  refine ⟨⟨.inl rfl, ?_⟩, by simp⟩
  exact (Bool.and_eq_true _ _).mpr ⟨rfl, hd⟩

/-- A switch may stand in a view if its data may. -/
theorem ofView_toggle (action : String) (on : Bool) {data : List (String × String)}
    (hd : Attribute.allInViews (Attribute.ofPairs data) = true) :
    Every Element.OfView (toggle action on data : Node Empty) := by
  rw [toggle, every_element]
  refine ⟨⟨.inl rfl, ?_⟩, by simp⟩
  simp only [Attribute.allInViews, List.all_append, Bool.and_eq_true] at hd ⊢
  exact ⟨⟨rfl, hd⟩, by cases on <;> rfl⟩

/-- A selector may stand in a view, whatever it offers. -/
theorem ofView_choice (action : String) (options : List (String × String)) (chosen : String) :
    Every Element.OfView (choice action options chosen : Node Empty) :=
  (every_choice (fun _ => Element.OfView.of_isInert) ..).mpr ⟨.inl rfl, rfl⟩

/-- The elements of a view are all as elements of views are. -/
theorem Tab.every_ofView (t : Tab) (now : Time.Instant) : Every Element.OfView (t.content now) := by
  have hp (e : Element Empty) := Element.OfView.of_isInert (e := e)
  -- Each tab accounts for its own controls; all the rest of its view is inert.
  cases t with
  | cron s =>
    exact Cron.every_content hp s now
      { retry := ofView_retryButton _
        refresh := ofView_actionButton _ _ rfl
        limit := ofView_choice _ _ _
        scheduler := fun on => ofView_toggle _ on rfl
        parts := Cron.State.forall_mem_parts.mpr fun _ _ j _ =>
          Cron.every_row hp j now (ofView_toggle _ _ rfl) (ofView_actionButton _ _ rfl) }
  | stats s =>
    exact Stats.every_content hp s now
      { retry := ofView_retryButton _
        refresh := ofView_actionButton _ _ rfl
        parts := Stats.State.forall_mem_parts.mpr fun _ _ =>
          ⟨fun _ _ m _ => Stats.every_row hp m _ _ fun _ _ => ⟨.inl rfl, rfl⟩,
            fun m _ => Stats.every_detail hp m _ (ofView_actionButton _ _ rfl)⟩ }
  | slop s =>
    exact Slop.every_content hp s now
      { retry := ofView_retryButton _
        refresh := ofView_actionButton _ _ rfl
        scanNow := ofView_actionButton _ _ rfl
        loop := fun on => ofView_toggle _ on rfl
        search := (every_element ..).mpr ⟨⟨.inl rfl, rfl⟩, everyAll_nil⟩
        severity := ofView_choice _ _ _
        parts := Slop.State.forall_mem_parts.mpr fun _ _ _ _ f _ _ _ =>
          Slop.every_row hp f fun _ _ => ofView_actionButton _ _ rfl }
  | tools s =>
    exact Tools.every_content hp s now
      { retry := ofView_retryButton _
        refresh := ofView_actionButton _ _ rfl
        parts := Tools.State.forall_mem_parts.mpr fun _ _ =>
          ⟨fun _ _ k _ => Tools.every_item hp k _ fun _ _ => ⟨.inl rfl, rfl⟩,
            fun _ _ tool _ => Tools.every_row hp tool _ _ (ofView_toggle _ _ rfl)
              fun _ => ⟨.inl rfl, rfl⟩⟩ }
  | context s =>
    exact Context.every_content hp s now
      { retry := ofView_retryButton _
        refresh := ofView_actionButton _ _ rfl
        clear := ofView_actionButton _ _ rfl
        parts := Context.State.forall_mem_parts.mpr fun _ _ i _ =>
          Context.every_row hp i (ofView_toggle _ _ rfl) }

/-- The view of a tab is markup with the tags and attributes of views. -/
theorem Tab.piece_content (t : Tab) (now : Time.Instant) :
    Piece ["input"] (Token.Within contentTags contentAttributes) (t.content now).html.toList
      ((t.content now).tokens Empty.elim) :=
  piece_print (fun _ => trivial) _ ((t.every_ofView now).imp fun _ => Element.OfView.known)
    (by simp)

end Dashboard
