import Dashboard.Bus
import Dashboard.Panel.Selection
import Dashboard.Proofs.Addressing
import Dashboard.Proofs.DocumentMarkup
import Dashboard.Proofs.SettingsRepair
/-!
# The active tab

From the settings on, the panel has one tab for each daemon that is switched on, and one of them is
active. Only a command that names another tab changes which one, and the document shows that tab and
no other.

* `Session.active_step` — what moves do to the active tab.
* `Panel.HasChosen.step`, `Panel.HasChosen.play` — one of the tabs stays active.
* `Panel.filterMap_buttons` — what is found in a document where the buttons of tabs start.
* `Panel.HasChosen.buttons_documentTokens`, `Panel.HasChosen.panels_documentTokens` — the button and
  the panel of the active tab in a document.
* `active_tab_is_shown` — all of it, for all settings.
-/

namespace Dashboard

open Panel Markup Markup.Node

/-! ### Moves and the active tab -/

namespace Panel

variable {p : Panel}

/-- A tab that there is becomes the active one. -/
theorem activate_of_mem {id : String} (hid : id ∈ p.tabs.map Tab.id) :
    (p.activate id).1 = true ∧ (p.activate id).2.active = some id := by
  have hindex : ¬ (p.index? id).isNone = true := by
    simpa [index?, List.findIdx?_eq_none_iff] using hid
  rw [activate, if_neg hindex]
  split
  · exact ⟨rfl, ‹_›⟩
  · exact ⟨rfl, rfl⟩

/-- A tab that is not there cannot be activated, and nothing changes. -/
theorem activate_of_not_mem {id : String} (hid : id ∉ p.tabs.map Tab.id) :
    p.activate id = (false, p) := by
  rw [activate, index?_eq_none hid]
  rfl

/-- The command that makes a tab active does so if there is the tab. -/
theorem active_select (p : Panel) {c : Command} (hc : c.name = selectWord) :
    (p.select c).panel.active =
      ((choice? c).filter (· ∈ p.tabs.map Tab.id)).or p.active := by
  rw [choice?, if_pos hc, select]
  cases (c.word? "tab").or c.tab with
  | none => rfl
  | some id =>
    rw [Option.map_some, Option.filter_some]
    by_cases hid : id ∈ p.tabs.map Tab.id
    · -- The tab that is named is there, and becomes the active one.
      obtain ⟨hfound, hactive⟩ := activate_of_mem hid
      rw [if_pos (decide_eq_true hid)]
      generalize p.activate id = answer at hfound hactive ⊢
      obtain ⟨found, q⟩ := answer
      cases hfound
      exact hactive
    · rw [activate_of_not_mem hid, if_neg (by simpa using hid)]
      rfl

/-- A command to a tab leaves the active tab. -/
@[simp] theorem active_address (p : Panel) (i : Nat) (c : Command) :
    (p.address i c).panel.active = p.active := by
  cases hi : p.tabs[i]? with
  | none => simp [address, hi, ignore]
  | some t => rw [address_eq hi]

/-- A command that is offered to tabs leaves the active tab. -/
@[simp] theorem active_offer (p : Panel) (c : Command) (places : List Nat) :
    (p.offer c places).panel.active = p.active := by
  induction places with
  | nil => rfl
  | cons i places ih =>
    simp only [offer]
    split
    · exact p.active_address i c
    · -- A tab that does not handle the command leaves the panel as it was.
      rename_i h
      rw [address_of_not_handled (by simpa using h)]
      exact ih

/-- Only the command that makes a tab active changes which one is. -/
theorem active_dispatch (p : Panel) (c : Command) :
    (p.dispatch c).panel.active =
      ((choice? c).filter (· ∈ p.tabs.map Tab.id)).or p.active := by
  by_cases hs : c.name = selectWord
  · simpa [dispatch, hs] using p.active_select hs
  · have hchoice : choice? c = none := if_neg hs
    rw [hchoice, dispatch, if_neg hs]
    simp only [Option.filter_none, Option.none_or]
    split
    · simp [beginAll_eq]
    · split
      · exact p.active_offer c _
      · split
        · exact p.active_address _ c
        · rfl

/-- Tabs on the same daemons have the same ids. -/
theorem ids_of_daemons {p q : Panel} (h : q.tabs.map Tab.daemon = p.tabs.map Tab.daemon) :
    q.tabs.map Tab.id = p.tabs.map Tab.id := by
  have hids := congrArg (List.map fun d => (Tab.Identity.ofDaemon d).id) h
  rwa [List.map_map, List.map_map] at hids

end Panel

namespace Session

variable {s : Session}

/-- Only the command that makes a tab active changes which one is. -/
theorem active_step (s : Session) (m : Move) :
    (s.step m).panel.active =
      (m.choice?.filter (· ∈ s.panel.tabs.map Tab.id)).or s.panel.active := by
  cases m with
  | receive c => exact s.panel.active_dispatch c
  | settle place done => exact s.panel.active_apply done
  | close => rfl

end Session

namespace Panel

/-- In a new panel the first tab is active. -/
theorem hasChosen_ofTabs (tabs : List Tab) : (ofTabs tabs).HasChosen := by
  cases tabs with
  | nil => exact ⟨by simp [ofTabs], by simp [ofTabs]⟩
  | cons t tabs => exact ⟨by simp [ofTabs], by simp [ofTabs]⟩

/-- A move leaves one of the tabs active. -/
theorem HasChosen.step {s : Session} (h : s.panel.HasChosen) (m : Session.Move) :
    (s.step m).panel.HasChosen := by
  have hids := ids_of_daemons (s.daemons_step m)
  have hempty : (s.step m).panel.tabs = [] ↔ s.panel.tabs = [] := by
    rw [← List.map_eq_nil_iff (f := Tab.id), hids, List.map_eq_nil_iff]
  have hactive := s.active_step m
  -- Either the active tab stays active or one of the tabs takes its place.
  cases hchosen : m.choice?.filter (· ∈ s.panel.tabs.map Tab.id) with
  | none =>
    rw [hchosen, Option.none_or] at hactive
    exact ⟨by rw [hactive, hempty, h.none_iff], by rw [hactive, hids]; exact h.mem⟩
  | some id =>
    have hid : id ∈ s.panel.tabs.map Tab.id := by
      simpa using (Option.filter_eq_some_iff.mp hchosen).2
    rw [hchosen, Option.some_or] at hactive
    refine ⟨?_, ?_⟩
    · rw [hactive, hempty]
      exact iff_of_false nofun fun hnil => by simp [hnil] at hid
    · rw [hactive, hids]
      rintro _ ⟨⟩
      exact hid

/-- Whatever happens, the tabs stay on their daemons and one of them stays active. -/
theorem HasChosen.play {s : Session} (h : s.panel.HasChosen) (moves : List Session.Move) :
    (s.play moves).panel.HasChosen ∧
      (s.play moves).panel.tabs.map Tab.daemon = s.panel.tabs.map Tab.daemon := by
  induction moves generalizing s with
  | nil => exact ⟨h, rfl⟩
  | cons m moves ih =>
    obtain ⟨hchosen, hdaemons⟩ := ih (h.step m)
    exact ⟨hchosen, hdaemons.trans (s.daemons_step m)⟩

/-- The active tab is the only one that counts as active. -/
theorem HasChosen.filter_isActive {p : Panel} (h : p.HasChosen)
    (hd : (p.tabs.map Tab.id).Nodup) : (p.tabs.filter p.isActive).map Tab.id = p.active.toList := by
  have hmap : (p.tabs.filter p.isActive).map Tab.id =
      (p.tabs.map Tab.id).filter fun id => p.active == some id := by
    rw [List.filter_map]
    rfl
  rw [hmap]
  cases hactive : p.active with
  | none => simp
  | some id =>
    have heq (x : String) : (some id == some x) = (x == id) := Bool.beq_comm
    simp only [heq]
    rw [List.filter_beq, List.count_eq_one_of_mem hd (h.mem id hactive)]
    rfl

end Panel

/-! ### The active tab in documents -/

namespace Markup

/-- Content has no buttons of tabs. -/
theorem Token.Within.buttonTab? {t : Token} (h : t.Within contentTags contentAttributes) :
    t.buttonTab? = none := by
  unfold Token.buttonTab?
  split
  · rename_i attributes
    -- The attribute that names the tab is none of those of views.
    have hlookup : attributes.lookup "data-tab" = none := by
      refine List.lookup_eq_none_iff.mpr fun a ha => bne_iff_ne.mpr ?_
      rintro heq
      exact absurd (heq ▸ h.2 a ha) (by decide)
    rw [hlookup]
    rfl
  · rfl

end Markup

namespace Panel

/-- The content of a tab is made of known tags and attributes. -/
theorem within_content (t : Tab) (now : Time.Instant) :
    ∀ token ∈ ((t.content now).lift : Node Embedded).tokens Embedded.tokens,
      token.Within contentTags contentAttributes := by
  have hpiece : Piece ["input"] (Token.Within contentTags contentAttributes)
      (((t.content now).lift : Node Embedded).print Embedded.print).toList
      (((t.content now).lift : Node Embedded).tokens Embedded.tokens) :=
    piece_print (fun _ => trivial) _
      ((every_lift _).mpr ((t.every_ofView now).imp fun _ he => (he.map _).known))
      (by simp)
  exact hpiece.within

/-- The start tag of the button of a tab. -/
def buttonStart (t : Tab) (active : Bool) : Token :=
  .opening "button"
    [("class", some ("tab-button" ++ activeClass active)), ("data-action", some selectWord),
      ("data-tab", some t.id)]

/-- What stands on the button of a tab. -/
def buttonFace (t : Tab) : List (Node Embedded) :=
  [icon t.identity.icon, text t.identity.label] ++ badge t.badge

/-- The button of a tab: its start tag, what stands on it, and its end. -/
theorem tokens_tabButton (t : Tab) (active : Bool) :
    (tabButton t active).tokens Embedded.tokens =
      buttonStart t active :: tokensAll Embedded.tokens (buttonFace t) ++ [.closing "button"] := by
  simp [tabButton, Node.tokens, buttonStart, buttonFace, Tag.isVoid, Tag.name, Attribute.reading,
    Attribute.label, Attribute.content, Attribute.Name.text]

/-- On the button of a tab no other one starts. -/
theorem buttonTab?_buttonFace (t : Tab) :
    ∀ token ∈ tokensAll Embedded.tokens (buttonFace t), token.buttonTab? = none := by
  cases hb : t.badge <;>
    simp [buttonFace, hb, icon, classed, badge, Node.tokens, Node.tokensAll, Tag.isVoid, Tag.name,
      or_imp, forall_and, Token.buttonTab?]

/-- The navigation: a button for each tab, and one to load everything again. -/
theorem tokens_navigation (p : Panel) :
    p.navigation.tokens Embedded.tokens =
      .opening "nav" [("class", some "tab-bar"), ("data-tab-id", some hostId)] ::
        (p.tabs.flatMap fun t => (tabButton t (p.isActive t)).tokens Embedded.tokens) ++
        .opening "button" [("class", some "refresh-all"), ("data-action", some refreshWord)] ::
          "Refresh all".toList.map .char ++ [.closing "button", .closing "nav"] := by
  simp [navigation, Node.tokens, Node.tokensAll, tokensAll_eq_flatMap, List.flatMap_map, Tag.isVoid,
    Tag.name, Attribute.reading, Attribute.label, Attribute.content, Attribute.Name.text]

/-- What is found in a document and stands nowhere but where the buttons of tabs start. -/
theorem filterMap_buttons {α : Type} {g : Token → Option α}
    (hg : ∀ t : Token, t.buttonTab? = none → g t = none) (p : Panel) (now : Time.Instant) :
    (p.documentTokens now).filterMap g =
      p.tabs.flatMap fun t => (g (buttonStart t (p.isActive t))).toList := by
  have hnone {ts : List Token} (h : ∀ t ∈ ts, t.buttonTab? = none) : ts.filterMap g = [] :=
    List.filterMap_eq_nil_iff.mpr fun t ht => hg t (h t ht)
  have hembedded (x : Embedded) : x.tokens.filterMap g = [] := by
    cases x <;> exact hnone (by simp [Embedded.tokens, Token.buttonTab?])
  have hchar (c : Char) : g (.char c) = none := hg _ rfl
  have hclosing (name : String) : g (.closing name) = none := hg _ rfl
  have hopening (name : String) (hn : name ≠ "button") (as : List (String × Option String)) :
      g (.opening name as) = none := hg _ (by simp [Token.buttonTab?, hn])
  have hbutton (t : Tab) (active : Bool) :
      ((tabButton t active).tokens Embedded.tokens).filterMap g =
        (g (buttonStart t active)).toList := by
    rw [tokens_tabButton, List.filterMap_append, List.filterMap_cons,
      hnone (buttonTab?_buttonFace t)]
    cases g (buttonStart t active) <;> simp [hclosing]
  -- One button on the bar is that of no tab.
  have hrefresh : g (.opening "button"
      [("class", some "refresh-all"), ("data-action", some refreshWord)]) = none := hg _ rfl
  have hpanel (t : Tab) (active : Bool) :
      ((tabPanel t active now).tokens Embedded.tokens).filterMap g = [] := by
    have hcontent := hnone fun token htoken => (within_content t now token htoken).buttonTab?
    rw [tokens_tabPanel, List.filterMap_append, List.filterMap_cons, hcontent]
    simp [panelStart, hopening, hclosing]
  rw [documentTokens_eq, tokens_navigation]
  simp [List.filterMap_flatMap, hbutton, hpanel, hembedded, hchar, hclosing, hopening, hrefresh]

theorem activeButton?_buttonStart (t : Tab) (active : Bool) :
    (buttonStart t active).activeButton? = if active then some t.id else none := by
  cases active <;> rfl

theorem shownPanel?_panelStart (t : Tab) (active : Bool) :
    (panelStart t active).shownPanel? = if active then some (some t.id) else none := by
  cases active <;> rfl

/-- What is found for the active tab only. -/
theorem HasChosen.flatMap_isActive {α : Type} {p : Panel} (h : p.HasChosen)
    (hd : (p.tabs.map Tab.id).Nodup) (f : String → α) :
    (p.tabs.flatMap fun t => (if p.isActive t then some (f t.id) else none).toList) =
      p.active.toList.map f := by
  rw [← h.filter_isActive hd, List.map_map]
  induction p.tabs with
  | nil => rfl
  | cons t tabs ih => cases ht : p.isActive t <;> simp [ht, ih]

/-- Of the buttons of tabs in a document, that of the active one is marked. -/
theorem HasChosen.buttons_documentTokens {p : Panel} (h : p.HasChosen)
    (hd : (p.tabs.map Tab.id).Nodup) (now : Time.Instant) :
    (p.documentTokens now).filterMap Token.activeButton? = p.active.toList := by
  have hg (t : Token) (ht : t.buttonTab? = none) : t.activeButton? = none := by
    unfold Token.activeButton?
    split <;> simp [ht]
  rw [filterMap_buttons hg]
  simp only [activeButton?_buttonStart]
  simpa using h.flatMap_isActive hd id

/-- Of the panels of tabs in a document, that of the active one is not hidden. -/
theorem HasChosen.panels_documentTokens {p : Panel} (h : p.HasChosen)
    (hd : (p.tabs.map Tab.id).Nodup) (now : Time.Instant) :
    (p.documentTokens now).filterMap Token.shownPanel? = p.active.toList.map some := by
  have hg (t : Token) (ht : t.IsQuiet) : t.shownPanel? = none := by
    unfold Token.shownPanel?
    split <;> simp [ht.2]
  have hembedded (x : Embedded) : x.tokens.filterMap Token.shownPanel? = [] := by
    cases x <;> rfl
  rw [filterMap_documentTokens hg]
  simp only [shownPanel?_panelStart, hembedded, h.flatMap_isActive hd]
  simp

end Panel

/-! ### From the settings on -/

/-- The daemons that are shown are called. -/
theorem Bus.shown_subset_daemons (s : Settings) : s.shown ⊆ (ofSettings s).daemons := by
  intro d hd
  have henabled := (List.mem_filter.mp hd).2
  simp [daemons, ofSettings, Settings.enabled, Daemon.mem_all, henabled]

/-- The tabs and the active one, from repaired settings on and whatever comes. The tabs are those of
    the order whose daemon has an address, under names of their own, and all their daemons are
    called. One of them is active if there are any, another one after exactly the commands that name
    one, and a document shows the panel of the active one and marks its button. -/
theorem active_tab_is_shown (given : Settings) (moves : List Session.Move) :
    let s := given.repair.1
    let session := ({ panel := ofSettings s } : Session).play moves
    let p := session.panel
    (ofSettings s).tabs = (s.order.filter fun d => !Text.isBlankText (s.endpoints.get d)).map
      (fun d => Tab.new d s.maxRetries s.historyLimit) ∧
    p.tabs.map Tab.daemon = s.order.filter (fun d => !Text.isBlankText (s.endpoints.get d)) ∧
    (p.tabs.map Tab.id).Nodup ∧
    p.tabs.map Tab.daemon ⊆ (Bus.ofSettings s).daemons ∧
    p.HasChosen ∧
    (∀ m, (session.step m).panel.active =
      (m.choice?.filter (· ∈ p.tabs.map Tab.id)).or p.active) ∧
    ∀ now, ∃ ts, tokens? (p.document now) = some ts ∧
      ts.filterMap Token.shownPanel? = p.active.toList.map some ∧
      ts.filterMap Token.activeButton? = p.active.toList := by
  intro s session p
  -- Two invariants of the whole session: one tab is chosen, and the tabs keep their daemons.
  obtain ⟨hchosen, hkept⟩ :=
    HasChosen.play (s := { panel := ofSettings s }) (hasChosen_ofTabs _) moves
  have hdaemons : p.tabs.map Tab.daemon = s.shown := hkept.trans (daemons_ofSettings s)
  have hnodup : s.order.Nodup := (Settings.stands_repair given).order.2
  have hids : (p.tabs.map Tab.id).Nodup := nodup_ids (hdaemons ▸ hnodup.filter _)
  have hcalled : p.tabs.map Tab.daemon ⊆ (Bus.ofSettings s).daemons :=
    hdaemons ▸ Bus.shown_subset_daemons s
  refine ⟨rfl, hdaemons, hids, hcalled, hchosen, session.active_step, fun now => ?_⟩
  refine ⟨_, p.tokens?_document now, ?_, ?_⟩
  · exact hchosen.panels_documentTokens hids now
  · exact hchosen.buttons_documentTokens hids now

end Dashboard
