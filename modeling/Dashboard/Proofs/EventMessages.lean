import Dashboard.Proofs.Addressing
import Dashboard.Proofs.JsonMembers
import Dashboard.Wiring.Event
/-!
# The message of an event is a command

The message that a binding builds from an element reads as the command of the binding, addressed to
the tab, and its arguments are what the binding takes from the element.

* `Json.Members.foldl_assign` — members with names of their own are assigned one after the other.
* `Wiring.Post.IsProper` — a message whose members have names of their own.
* `Wiring.Post.Sends` — what the command of a message holds, `Wiring.Post.IsProper.sends` — it does.
* `Wiring.find?_table` — the binding of an action in the script of a tab.
* `Panel.dispatch_addressed` — a command that names a tab is handed to it.
-/

namespace Dashboard

/-! ### Members with names of their own -/

namespace Json.Members

variable {ms acc : Members} {name : String} {value x : Json}

/-- A new member is put at the end. -/
theorem assign_of_not_mem (hn : name ∉ ms.map (·.1)) :
    assign name value ms = ms ++ [(name, value)] := by
  induction ms with
  | nil => rfl
  | cons m ms ih =>
    rw [List.map_cons, List.mem_cons, not_or] at hn
    simp [assign, Ne.symm hn.1, ih hn.2]

/-- New members are put at the end in their order. -/
theorem foldl_assign (hn : ((acc ++ ms).map (·.1)).Nodup) :
    ms.foldl (fun acc m => assign m.1 m.2 acc) acc = acc ++ ms := by
  induction ms generalizing acc with
  | nil => simp
  | cons m ms ih =>
    have hm : m.1 ∉ acc.map (·.1) := by
      rw [List.map_append, List.map_cons, List.nodup_append] at hn
      exact fun hmem => hn.2.2 _ hmem _ List.mem_cons_self rfl
    rw [List.foldl_cons, assign_of_not_mem hm, ih (by simpa using hn)]
    simp

end Json.Members

/-! ### Messages -/

namespace Wiring

open Markup

variable {ρ : Type} {p : Post} {e : Element ρ} {g : Gesture} {id : String}

namespace Post

/-- The names of the members that a message takes from an element. -/
def names (p : Post) : List String := p.attributes ++ p.value.toList ++ p.checked.toList

/-- The names that messages and elements use otherwise. -/
def reserved : List String := ["", "command", "tabId", "tab_id", "action", "tab-id"]

/-- The members of the message have names of their own. -/
def IsProper (p : Post) : Prop := p.names.Nodup ∧ ∀ name ∈ p.names, name ∉ reserved

instance (p : Post) : Decidable p.IsProper := inferInstanceAs (Decidable (_ ∧ _))

/-- A member of a message has a name. -/
theorem IsProper.ne_empty (hp : p.IsProper) {name : String} (hn : name ∈ p.names) : name ≠ "" :=
  fun h => hp.2 name hn (h ▸ List.mem_cons_self)

/-- The members of a message are its attributes, and the value and the state of the control where
    they are sent. -/
theorem IsProper.assignments_eq (hp : p.IsProper) (e : Element ρ) (g : Gesture) :
    p.assignments e g =
      (p.attributes.map fun name => (name, (e.data? name).elim .null .string)) ++
        p.value.toList.map (·, .string g.value) ++ p.checked.toList.map (·, .bool g.checked) := by
  have hkept {o : Option String} (ho : ∀ name ∈ o, name ∈ p.names) : o.filter (· != "") = o := by
    cases o with
    | none => rfl
    | some name => simpa using hp.ne_empty (ho name rfl)
  rw [assignments, hkept (o := p.value) fun name hn => by simp_all [names],
    hkept (o := p.checked) fun name hn => by simp_all [names]]

theorem IsProper.map_assignments (hp : p.IsProper) (e : Element ρ) (g : Gesture) :
    (p.assignments e g).map (·.1) = p.names := by
  simp [hp.assignments_eq, names, Function.comp_def]

/-- The message is that of a command for the tab with what is taken from the element. -/
theorem IsProper.message_eq (hp : p.IsProper) (id : String) (e : Element ρ) (g : Gesture) :
    p.message id e g =
      Command.toJson
        { name := p.command, tab := some id, arguments := p.assignments e g } := by
  have hnodup : ("command" :: "tabId" :: p.names).Nodup := by
    have hcommand : "command" ∉ p.names := fun h => hp.2 _ h (by decide)
    have htab : "tabId" ∉ p.names := fun h => hp.2 _ h (by decide)
    simp [hp.1, hcommand, htab]
  rw [message, Json.Members.foldl_assign]
  · rfl
  · simpa [hp.map_assignments] using hnodup

/-- What the command of a message holds. -/
structure Sends (p : Post) (id : String) (e : Element ρ) (g : Gesture) (c : Command) : Prop where
  name : c.name = p.command
  tab : c.tab = some id
  data : ∀ n ∈ p.attributes, ∀ v, e.data? n = some v → c.payload.field? [n] = some (.string v)
  value : ∀ n, p.value = some n → c.payload.field? [n] = some (.string g.value)
  checked : ∀ n, p.checked = some n → c.payload.field? [n] = some (.bool g.checked)

/-- The message of an event is a command with what was taken from the element. -/
theorem IsProper.sends (hp : p.IsProper) (id : String) (e : Element ρ) (g : Gesture) :
    ∃ c, Command.ofJson? (p.message id e g) = some c ∧ p.Sends id e g c := by
  have hothers : ∀ m ∈ p.assignments e g, m.1 ∉ "command" :: Command.tabNames := by
    intro m hm h
    have hname : m.1 ∈ p.names := hp.map_assignments e g ▸ List.mem_map_of_mem hm
    have hreserved : "command" :: Command.tabNames ⊆ reserved := by decide
    exact hp.2 _ hname (hreserved h)
  refine ⟨_, hp.message_eq id e g ▸ Command.ofJson?_toJson _ hothers, ?_⟩
  -- The fields have names of their own, so each is found as it was assigned.
  have hnodup : ((Json.normalMembers (p.assignments e g)).map (·.1)).Nodup := by
    simpa [Json.normalMembers_eq_map, Function.comp_def, ← hp.map_assignments e g] using hp.1
  have hfield {n : String} {x : Json} (hm : (n, x) ∈ p.assignments e g) (hx : x.normal = x)
      (hnull : x.isNull = false) :
      Json.field? (.object (Json.Members.sorted (Json.normalMembers (p.assignments e g)))) [n] =
        some x := by
    have hmem : (n, x) ∈ Json.normalMembers (p.assignments e g) := by
      rw [Json.normalMembers_eq_map]
      exact List.mem_map.mpr ⟨_, hm, by rw [hx]⟩
    have hfind := Json.Members.find?_sorted_of_mem hnodup hmem
    simp [Json.field?, Json.members?, Json.Members.field?, hfind, hnull]
  have hassign := hp.assignments_eq e g
  have hdata {n v : String} (hn : n ∈ p.attributes) (hv : e.data? n = some v) :
      (n, .string v) ∈ p.assignments e g := by
    rw [hassign, List.append_assoc]
    exact List.mem_append_left _ (List.mem_map.mpr ⟨n, hn, by rw [hv]; rfl⟩)
  exact
    { name := rfl
      tab := rfl
      data := fun n hn v hv => hfield (hdata hn hv) rfl rfl
      value := fun n hn => hfield (by simp [hassign, hn]) rfl rfl
      checked := fun n hn => hfield (by simp [hassign, hn]) rfl rfl }

namespace Sends

variable {c : Command} {n v : String}

/-- Data of an element arrives as a text. -/
theorem word? (hs : p.Sends id e g c) (hn : n ∈ p.attributes) (hv : e.data? n = some v)
    (hne : v ≠ "") : c.word? n = some v := by
  have htext : c.payload.textOf? [n] = some v := by
    rw [Json.textOf?, hs.data n hn v hv]
    rfl
  rw [Command.word?, Json.wordOf?, htext, Option.filter_some]
  simp [hne]

/-- Whether the element is checked arrives as a truth value. -/
theorem truth? (hs : p.Sends id e g c) (hn : p.checked = some n) :
    c.truth? n = some g.checked := by
  rw [Command.truth?, Json.truthOf?, hs.checked n hn]
  rfl

end Sends

end Post

/-! ### Bindings in a script -/

/-- Every binding counts: none has the trigger and the action of another. -/
def IsUnambiguous (bindings : List Binding) : Prop :=
  (bindings.map fun b => (b.trigger, b.action)).Nodup

instance (bindings : List Binding) : Decidable (IsUnambiguous bindings) :=
  inferInstanceAs (Decidable (List.Nodup _))

/-- The binding of an action in the script of a tab. -/
theorem find?_table {bindings : List Binding} (hu : IsUnambiguous bindings) {b : Binding}
    (hb : b ∈ bindings) : (table b.trigger bindings).find? b.action = some b.post.toJson := by
  have hmem : (b.action, b.post.toJson) ∈ (bindings.filter (·.trigger = b.trigger)).map
      fun b => (b.action, b.post.toJson) :=
    List.mem_map.mpr ⟨b, List.mem_filter.mpr ⟨hb, by simp⟩, rfl⟩
  rw [table]
  refine Json.Members.find?_sorted_of_mem ?_ hmem
  rw [List.map_map, List.Nodup, List.pairwise_map]
  rw [IsUnambiguous, List.Nodup, List.pairwise_map] at hu
  refine (hu.filter _).imp_of_mem fun {a a'} ha ha' hne heq => hne ?_
  have htrigger := (List.mem_filter.mp ha).2
  have htrigger' := (List.mem_filter.mp ha').2
  simp_all

end Wiring

/-! ### Commands that name their tab -/

namespace Panel

variable {p : Panel} {t : Tab} {c : Command}

/-- A tab that is found has a place. -/
theorem exists_index?_of_tab? {id : String} (ht : p.tab? id = some t) :
    ∃ i, p.index? id = some i ∧ p.tabs[i]? = some t := by
  obtain ⟨hid, i, hi, heq, hbefore⟩ := List.find?_eq_some_iff_getElem.mp ht
  refine ⟨i, List.findIdx?_eq_some_iff_getElem.mpr ⟨hi, heq ▸ hid, ?_⟩, ?_⟩
  · intro j hj
    simpa using hbefore j hj
  · rw [List.getElem?_eq_getElem hi, heq]

/-- A command that names a tab is handled if the tab handles it, and makes the mutation that the
    tab asks for. -/
theorem dispatch_addressed (ht : p.tab? t.id = some t) (hc : c.tab = some t.id)
    (hselect : c.name ≠ selectWord) (hrefresh : c.name ≠ refreshWord) :
    (p.dispatch c).handled = (t.react c).2.isHandled ∧
      ∀ i m, .change i m ∈ (p.dispatch c).work → (t.react c).2 = .change m := by
  obtain ⟨i, hi, htab⟩ := exists_index?_of_tab? ht
  have haddress : p.dispatch c = p.address i c := by
    simp [dispatch, hselect, hrefresh, hc, hi]
  rw [haddress, address_eq htab]
  refine ⟨rfl, fun j m hm => ?_⟩
  simp only [Tab.workAt] at hm
  split at hm <;> simp_all

end Panel

end Dashboard
