import Dashboard.Proofs.EventMessages
import Dashboard.Proofs.ViewElements
import Mathlib.Data.List.Nodup
/-!
# Controls and the events that they send

A control is connected if the script of its tab has a binding for its action under every event that
a user causes on it, the data that the binding copies is there, and the tab heeds the command. A tab
serves the controls that are connected, in any panel.

* `Element.data?_of_mem_subject` — the data that an element carries is found under its names.
* `Tab.Heeds` — the tab handles a command, and a mutation that it asks for names certain things.
* `Tab.Connects` — an element is connected or does nothing.
* `connects_click`, `connects_actionButton`, `connects_toggle` and others — the kinds of controls.
* `Tab.bindings_proper` — what all bindings have in common.
* `Tab.Serves`, `Tab.Connects.serves` — from the event to the mutation.
-/

namespace Dashboard

open Markup Wiring

/-! ### Data of elements -/

namespace Markup

variable {ρ : Type} {e : Element ρ}

/-- The names of plain attributes that read as names of data. -/
theorem Attribute.Name.action_or_tabId {n : Name} (h : n.text.toList.take 5 = "data-".toList) :
    n = action ∨ n = tabId := by
  revert h
  cases n <;> decide

/-- An attribute that is read as data was written as data, except for the two names with another
    use. -/
theorem Attribute.eq_data_of_label {a : Attribute} {name : String} (ha : name ≠ "action")
    (ht : name ≠ "tab-id") (h : a.label = "data-" ++ name) : ∃ value, a = .data name value := by
  have htake : a.label.toList.take 5 = "data-".toList := by
    rw [h, String.toList_append]
    exact List.take_left' rfl
  cases a with
  -- Only two attributes of another kind have such labels.
  | plain n value =>
    rcases Attribute.Name.action_or_tabId htake with rfl | rfl
    · have haction : "data-" ++ "action" = "data-" ++ name := h
      exact absurd ((String.append_right_inj "data-").mp haction).symm ha
    · have htab : "data-" ++ "tab-id" = "data-" ++ name := h
      exact absurd ((String.append_right_inj "data-").mp htab).symm ht
  | flag n => exact absurd htake (by cases n <;> decide)
  | data n value =>
    obtain rfl := (String.append_right_inj "data-").mp h
    exact ⟨value, rfl⟩

/-- What an element is about are its data. -/
theorem Element.mem_subject {d : String × String} :
    d ∈ e.subject ↔ .data d.1 d.2 ∈ e.attributes := by
  simp only [subject, List.mem_filterMap]
  constructor
  · rintro ⟨a, ha, h⟩
    cases a with
    | data name value =>
      obtain rfl := Option.some.inj h
      exact ha
    | plain | flag => cases h
  · exact fun h => ⟨_, h, rfl⟩

/-- The data that an element carries is found under its names. -/
theorem Element.data?_of_mem_subject (hn : (e.subject.map (·.1)).Nodup)
    (ha : "action" ∉ e.subject.map (·.1)) (ht : "tab-id" ∉ e.subject.map (·.1))
    {d : String × String} (hd : d ∈ e.subject) : e.data? d.1 = some d.2 := by
  have hname : d.1 ∈ e.subject.map (·.1) := List.mem_map_of_mem hd
  obtain ⟨a, hfind⟩ := Option.isSome_iff_exists.mp (List.find?_isSome.mpr
    (⟨_, mem_subject.mp hd, by simp [Attribute.label]⟩ :
      ∃ a ∈ e.attributes, (a.label == "data-" ++ d.1) = true))
  have hlabel : a.label = "data-" ++ d.1 := by simpa using List.find?_some hfind
  obtain ⟨value, rfl⟩ := Attribute.eq_data_of_label (fun h => ha (h ▸ hname))
    (fun h => ht (h ▸ hname)) hlabel
  have hmem : (d.1, value) ∈ e.subject := mem_subject.mpr (List.mem_of_find?_eq_some hfind)
  rw [data?, attribute?, hfind, Option.bind_some, Attribute.content]
  exact congrArg (fun d => some d.2) (List.inj_on_of_nodup_map hn hmem hd rfl)

/-! ### Elements that do nothing -/

/-- An attribute of an element that does nothing names no action. -/
theorem Attribute.label_of_isInert {a : Attribute} (h : a.isInert = true) :
    (a.label == "data-action") = false := by
  cases a with
  | plain n value => cases n <;> first | rfl | cases h
  | flag n => cases n <;> rfl
  | data n value => cases h

/-- An element that does nothing names no action. -/
theorem Element.action?_of_isInert (h : e.isInert = true) : e.action? = none := by
  have hlabel : ∀ a ∈ e.attributes, (a.label == "data-action") = false := by
    simp only [isInert, Bool.or_eq_true, Bool.and_eq_true, beq_iff_eq] at h
    rcases h with ⟨-, has⟩ | ⟨-, has⟩
    · exact fun a ha => Attribute.label_of_isInert (List.all_eq_true.mp has a ha)
    · rw [has, List.forall_mem_singleton]
      rfl
  have hfind : e.attributes.find? (·.label == "data-action") = none :=
    List.find?_eq_none.mpr fun a ha => by simp [hlabel a ha]
  rw [action?, attribute?, hfind]
  rfl

end Markup

/-! ### Tabs and controls -/

namespace Tab

variable {t : Tab} {c : Command} {names : List (String × String)}

/-- The tab handles a command, and a mutation that it asks for names these things and no others. -/
structure Heeds (t : Tab) (c : Command) (names : List (String × String)) : Prop where
  handled : (t.react c).2.isHandled = true
  names : ∀ m, (t.react c).2 = .change m → m.names = names

theorem Heeds.of_reload (h : (t.react c).2 = .reload) : t.Heeds c names :=
  ⟨by rw [h]; rfl, fun m hm => by rw [h] at hm; cases hm⟩

theorem Heeds.of_redraw (h : (t.react c).2 = .redraw) : t.Heeds c names :=
  ⟨by rw [h]; rfl, fun m hm => by rw [h] at hm; cases hm⟩

/-- A command is heeded for the names that its call to the daemon carries. -/
theorem Heeds.of_change {m : Mutation} (h : (t.react c).2 = .change m) (hm : m.names = names) :
    t.Heeds c names :=
  ⟨by rw [h]; rfl, fun m' hm' => by rw [h] at hm'; cases hm'; exact hm⟩

/-- An element whose action has a binding under a trigger: the data that the binding copies is
    there, and the tab heeds the command that is sent. -/
def ConnectsBy (t : Tab) (names : List (String × String)) (e : Element Empty) (action : String)
    (trigger : Trigger) : Prop :=
  ∃ b ∈ t.bindings, b.trigger = trigger ∧ b.action = action ∧
    (∀ name ∈ b.post.attributes, (e.data? name).isSome) ∧
    ∀ g, e.Allows g → ∀ c, b.post.Sends t.id e g c → t.Heeds c names

/-- An element that does something reacts to some event, and is connected under every one. -/
def Connects (t : Tab) (names : List (String × String)) (e : Element Empty) : Prop :=
  ∀ action, e.action? = some action →
    e.fires ≠ [] ∧ ∀ trigger ∈ e.fires, t.ConnectsBy names e action trigger

end Tab

/-! ### Bindings -/

/-- Bindings that are told apart by trigger and action, whose messages have members with names of
    their own, and of which none is a command of the panel. -/
def Wiring.AreProper (bindings : List Binding) : Prop :=
  IsUnambiguous bindings ∧ ∀ b ∈ bindings, b.post.IsProper ∧
    b.post.command ≠ Panel.selectWord ∧ b.post.command ≠ Panel.refreshWord

instance (bindings : List Binding) : Decidable (AreProper bindings) :=
  inferInstanceAs (Decidable (_ ∧ _))

/-- The bindings of each tab are told apart and post no command of the panel. -/
theorem Tab.bindings_proper (t : Tab) : AreProper t.bindings := by
  cases t with
  | cron s => exact (by decide +kernel : AreProper Cron.bindings)
  | stats s => exact (by decide +kernel : AreProper Stats.bindings)
  | slop s => exact (by decide +kernel : AreProper Slop.bindings)
  | tools s => exact (by decide +kernel : AreProper Tools.bindings)
  | context s => exact (by decide +kernel : AreProper Context.bindings)

/-! ### The kinds of controls -/

section

variable {t : Tab} {names : List (String × String)} {e : Element Empty} {word : String}

/-- An element with an action is connected if each event that it fires is bound. -/
theorem connects_of_action (ha : e.action? = some word) (hf : e.fires ≠ [])
    (h : ∀ trigger ∈ e.fires, t.ConnectsBy names e word trigger) : t.Connects names e := by
  intro action haction
  obtain rfl := Option.some.inj (ha.symm.trans haction)
  exact ⟨hf, h⟩

/-- An element that does nothing is connected, as there is nothing to bind. -/
theorem connects_of_inert (h : e.isInert = true) : t.Connects names e := by
  intro action haction
  rw [Element.action?_of_isInert h] at haction
  cases haction

/-- The command has what an element carries, apart from what is empty. -/
def Carries (data : List (String × String)) (c : Command) : Prop :=
  ∀ d ∈ data, d.2 ≠ "" → c.word? d.1 = some d.2

/-- What a binding copies is what the element carries. -/
theorem data?_of_mem_bindings {b : Binding} (hb : b ∈ t.bindings)
    (hn : e.subject.map (·.1) = b.post.attributes) :
    ∀ d ∈ e.subject, e.data? d.1 = some d.2 := by
  obtain ⟨hnodup, hreserved⟩ := (t.bindings_proper.2 b hb).1
  have hmem {name : String} (h : name ∈ e.subject.map (·.1)) : name ∈ b.post.names := by
    rw [hn] at h
    exact List.mem_append_left _ (List.mem_append_left _ h)
  refine fun d => Element.data?_of_mem_subject ?_ ?_ ?_
  · rw [hn]
    exact (List.nodup_append.mp (List.nodup_append.mp hnodup).1).1
  · exact fun h => hreserved _ (hmem h) (by decide)
  · exact fun h => hreserved _ (hmem h) (by decide)

/-- The data of an element arrive with the command under the names that the binding gives them. -/
theorem carries_of_sends {b : Binding} {g : Gesture} {c : Command} (hb : b ∈ t.bindings)
    (hn : e.subject.map (·.1) = b.post.attributes) (hs : b.post.Sends t.id e g c) :
    Carries e.subject c := fun d hd hne =>
  hs.word? (hn ▸ List.mem_map_of_mem hd) (data?_of_mem_bindings hb hn d hd) hne

/-- An element has the data that its binding posts. -/
theorem isSome_of_mem_bindings {b : Binding} (hb : b ∈ t.bindings)
    (hn : e.subject.map (·.1) = b.post.attributes) :
    ∀ name ∈ b.post.attributes, (e.data? name).isSome := by
  rw [← hn, List.forall_mem_map]
  intro d hd
  rw [data?_of_mem_bindings hb hn d hd]
  rfl

/-- A button, a row, a cell or an entry of a list. -/
theorem connects_click (ha : e.action? = some word) (hf : e.fires = [.click])
    (hb : .click word (e.subject.map (·.1)) ∈ t.bindings)
    (hr : ∀ c : Command, c.name = word → Carries e.subject c → t.Heeds c names) :
    t.Connects names e := by
  refine connects_of_action ha (by simp [hf]) ?_
  rw [hf, List.forall_mem_singleton]
  exact ⟨_, hb, rfl, rfl, isSome_of_mem_bindings hb rfl, fun g _ c hs =>
    hr c hs.name (carries_of_sends hb rfl hs)⟩

/-- A switch. -/
theorem connects_switch {state : String} (ha : e.action? = some word) (hf : e.fires = [.change])
    (hb : .toggle word (e.subject.map (·.1)) state ∈ t.bindings)
    (hr : ∀ (c : Command) (on : Bool), c.name = word → Carries e.subject c →
      c.truth? state = some on → t.Heeds c names) : t.Connects names e := by
  refine connects_of_action ha (by simp [hf]) ?_
  rw [hf, List.forall_mem_singleton]
  exact ⟨_, hb, rfl, rfl, isSome_of_mem_bindings hb rfl, fun g _ c hs =>
    hr c g.checked hs.name (carries_of_sends hb rfl hs) (hs.truth? rfl)⟩

/-- A field for a text that is searched for. -/
theorem connects_search {name : String} (ha : e.action? = some word)
    (hf : e.fires = [.change, .enter]) (hchange : .choose word name ∈ t.bindings)
    (henter : .submit word name ∈ t.bindings)
    (hr : ∀ c : Command, c.name = word → t.Heeds c names) : t.Connects names e := by
  refine connects_of_action ha (by simp [hf]) ?_
  rw [hf, List.forall_mem_cons, List.forall_mem_singleton]
  exact ⟨⟨_, hchange, rfl, rfl, List.forall_mem_nil _, fun g _ c hs => hr c hs.name⟩,
    ⟨_, henter, rfl, rfl, List.forall_mem_nil _, fun g _ c hs => hr c hs.name⟩⟩

/-- The button for another attempt is connected. -/
theorem connects_retryButton (hb : .click word [] ∈ t.bindings)
    (hr : ∀ c : Command, c.name = word → t.Heeds c names) :
    Node.Every (t.Connects names) (retryButton word) := by
  rw [retryButton, Node.every_element]
  exact ⟨connects_click rfl rfl hb fun c hc _ => hr c hc, by simp⟩

/-- A button is connected under the names that it carries. -/
theorem connects_actionButton {label : String} {data : List (String × String)}
    (hb : .click word (data.map (·.1)) ∈ t.bindings)
    (hr : ∀ c : Command, c.name = word → Carries data c → t.Heeds c names) :
    Node.Every (t.Connects names) (actionButton label word data) := by
  have hsubject : Element.subject (ρ := Empty)
      ⟨.button, .plain .action word :: Attribute.ofPairs data, [.text label]⟩ = data := by
    simp [Element.subject, Attribute.ofPairs]
  rw [← hsubject] at hb hr
  rw [actionButton, Node.every_element]
  exact ⟨connects_click rfl rfl hb hr, by simp⟩

/-- A switch is connected under the names that it carries, and its state arrives. -/
theorem connects_toggle {on : Bool} {data : List (String × String)} {state : String}
    (hb : .toggle word (data.map (·.1)) state ∈ t.bindings)
    (hr : ∀ (c : Command) (on : Bool), c.name = word → Carries data c →
      c.truth? state = some on → t.Heeds c names) :
    Node.Every (t.Connects names) (toggle word on data) := by
  have hsubject : Element.subject (ρ := Empty)
      ⟨.input, [.plain .kind "checkbox", .plain .action word] ++ Attribute.ofPairs data ++
        Attribute.flagIf on .checked, []⟩ = data := by
    cases on <;> simp [Element.subject, Attribute.ofPairs, Attribute.flagIf]
  rw [← hsubject] at hb hr
  rw [toggle, Node.every_element]
  exact ⟨connects_switch rfl rfl hb hr, Node.everyAll_nil⟩

/-- A choice sends one of its options. -/
theorem connects_choice {name chosen : String} {options : List (String × String)}
    (hb : .choose word name ∈ t.bindings)
    (hr : ∀ (c : Command), c.name = word →
      (∃ o ∈ options, c.payload.field? [name] = some (.string o.1)) → t.Heeds c names) :
    Node.Every (t.Connects names) (choice word options chosen) := by
  rw [every_choice fun _ => connects_of_inert]
  refine connects_of_action rfl (by simp [Element.fires]) ?_
  rw [Element.fires, List.forall_mem_singleton]
  refine ⟨_, hb, rfl, rfl, List.forall_mem_nil _, fun g hg c hs => hr c hs.name ?_⟩
  -- What a user leaves in a choice is one of its options.
  obtain ⟨n, hn, hvalue⟩ := List.mem_filterMap.mp (hg rfl)
  obtain ⟨o, ho, rfl⟩ := List.mem_map.mp hn
  have hchosen : o.1 = g.value := Option.some.inj hvalue
  exact ⟨o, ho, hchosen ▸ hs.value name rfl⟩

end

/-! ### Events -/

/-- A tab serves an element: if the element does something it reacts to some event, and for every
    event that a user causes on it the script of the tab has a message, the data that the message
    copies is there, and in any panel that has the tab the message is handled, whatever the user has
    left in the element. A mutation that comes of it names these things and no others. -/
def Tab.Serves (t : Tab) (names : List (String × String)) (e : Element Empty) : Prop :=
  ∀ action, e.action? = some action →
    e.fires ≠ [] ∧ ∀ trigger ∈ e.fires, ∃ post : Post,
      (table trigger t.bindings).find? action = some post.toJson ∧
      (∀ name ∈ post.attributes, (e.data? name).isSome) ∧
      ∀ g, e.Allows g → ∃ c, Command.ofJson? (post.message t.id e g) = some c ∧
        ∀ p : Panel, p.tab? t.id = some t →
          (p.dispatch c).handled = true ∧
          ∀ i m, .change i m ∈ (p.dispatch c).work → m.names = names

/-- A tab serves the elements that are connected. -/
theorem Tab.Connects.serves {t : Tab} {names : List (String × String)} {e : Element Empty}
    (h : t.Connects names e) : t.Serves names e := by
  intro action ha
  obtain ⟨hne, hconnects⟩ := h action ha
  refine ⟨hne, fun trigger htrigger => ?_⟩
  obtain ⟨b, hb, rfl, rfl, hdata, hheeds⟩ := hconnects trigger htrigger
  obtain ⟨hunambiguous, hproper⟩ := t.bindings_proper
  obtain ⟨hpost, hselect, hrefresh⟩ := hproper b hb
  refine ⟨b.post, find?_table hunambiguous hb, hdata, fun g hg => ?_⟩
  -- What the script sends is read as a command, which the tab heeds when it comes to the panel.
  obtain ⟨c, hc, hsends⟩ := hpost.sends t.id e g
  have hheeds := hheeds g hg c hsends
  refine ⟨c, hc, fun p hp => ?_⟩
  obtain ⟨hhandled, hwork⟩ := Panel.dispatch_addressed hp hsends.tab (hsends.name ▸ hselect)
    (hsends.name ▸ hrefresh)
  exact ⟨hhandled.trans hheeds.handled, fun i m hm => hheeds.names m (hwork i m hm)⟩

end Dashboard
