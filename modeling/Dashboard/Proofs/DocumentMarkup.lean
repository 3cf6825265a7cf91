import Dashboard.Proofs.ScriptText
import Dashboard.Proofs.ViewMarkup
import Dashboard.Text.Occurrences
/-!
# Documents are markup

The document of a panel reads as tags that nest and text. Its style sheet and its scripts are read
to their own ends, and every tab has one panel.

* `documentTags`, `documentAttributes` — the names in documents.
* `Panel.every_ofDocument` — the elements of a document, `Panel.foreigns_documentTree` — its style
  sheet and its scripts.
* `Panel.documentTokens` — what a document reads as; `Panel.raws_documentTokens`,
  `Panel.panels_documentTokens` — the scripts and the panels among it.
* `Panel.occurrences_bootstrap` — the script that installs the registry stands once in a document.
* `views_and_documents_are_markup` — views and documents are markup.
-/

namespace Dashboard

open Markup Markup.Node

/-! ### Names -/

/-- The names of the elements of documents. -/
def documentTags : List String :=
  ["html", "head", "meta", "title", "style", "script", "body", "nav"] ++ contentTags

/-- The names of the attributes in documents. -/
def documentAttributes : List String :=
  ["charset", "id", "data-tab", "hidden"] ++ contentAttributes

theorem isName_documentAttributes : ∀ l ∈ documentAttributes, isName l = true := by
  decide +kernel

/-- What may stand in a view may stand in the document. -/
theorem contentAttributes_subset : contentAttributes ⊆ documentAttributes :=
  List.subset_append_right _ _

theorem mem_documentTags (tag : Tag) : tag.name ∈ documentTags := by
  cases tag <;> decide

/-! ### The elements of documents -/

namespace Markup

variable {ρ σ : Type}

/-- An element as it stands in documents. -/
def Element.OfDocument (e : Element ρ) : Prop :=
  e.attributes.all (documentAttributes.contains ·.label) = true

/-- An element of a document is one that its readers know. -/
theorem Element.OfDocument.known {e : Element ρ} (h : e.OfDocument) :
    e.Known ["input", "meta"] (Token.Within documentTags documentAttributes) := by
  have hlabel : ∀ a ∈ e.attributes, a.label ∈ documentAttributes := fun a ha =>
    List.contains_iff_mem.mp (List.all_eq_true.mp h a ha)
  exact
    { void_eq := by cases e.tag <;> decide
      isName := fun a ha => isName_documentAttributes _ (hlabel a ha)
      opening := ⟨mem_documentTags _, List.forall_mem_map.mpr hlabel⟩
      closing := mem_documentTags _ }

/-- Only parts start the panels of tabs. -/
theorem Element.OfDocument.quiet {e : Element ρ} (h : e.OfDocument) (ht : e.tag ≠ .part) :
    e.Known ["input", "meta"] Token.IsQuiet where
  void_eq := h.known.void_eq
  isName := h.known.isName
  opening := by
    refine Token.isQuiet_opening ?_ _
    revert ht
    cases e.tag <;> decide
  closing := ⟨rfl, rfl⟩

/-- An element of a view may stand in the document. -/
theorem Element.OfView.ofDocument {e : Element ρ} (h : e.OfView) : e.OfDocument :=
  List.all_eq_true.mpr fun a ha =>
    List.contains_iff_mem.mpr (contentAttributes_subset (h.label_mem a ha))

/-- That an element may stand in a view does not depend on what is put beneath it. -/
theorem Element.OfView.map {e : Element ρ} (h : e.OfView) (f : ρ → σ) : (e.map f).OfView :=
  ⟨h.tag, h.attributes⟩

/-- What a style sheet or a script reads as. -/
def Embedded.tokens : Embedded → List Token
  | styleSheet body => [.opening "style" [], .raw body, .closing "style"]
  | script body => [.opening "script" [], .raw body, .closing "script"]

/-- The text of a style sheet or a script. -/
def Embedded.body : Embedded → String
  | styleSheet body | script body => body

/-- A style sheet or a script without `<` is read to its end. -/
theorem Embedded.piece {x : Embedded} (hx : '<' ∉ x.body.toList) :
    Piece ["input", "meta"] (Token.Within documentTags documentAttributes) x.print.toList
      x.tokens := by
  cases x with
  | styleSheet body =>
    have h : Piece ["input", "meta"] (Token.Within documentTags documentAttributes)
        ("<style>".toList ++ body.toList ++ "</style>".toList)
        [.opening "style" [], .raw (String.ofList body.toList), .closing "style"] :=
      .raw rfl (fun _ => rfl) hx rfl (by simp [Token.Within, documentTags])
    simpa [print, tokens] using h
  | script body =>
    have h : Piece ["input", "meta"] (Token.Within documentTags documentAttributes)
        ("<script>".toList ++ body.toList ++ "</script>".toList)
        [.opening "script" [], .raw (String.ofList body.toList), .closing "script"] :=
      .raw rfl (fun _ => rfl) hx rfl (by simp [Token.Within, documentTags])
    simpa [print, tokens] using h

/-- A script without `<` is held by its element. -/
theorem tokens?_scriptElement {body : String} (h : '<' ∉ body.toList) :
    tokens? ("<script>" ++ body ++ "</script>") =
      some [.opening "script" [], .raw body, .closing "script"] :=
  (Embedded.piece (x := .script body) h).tokens?_eq

end Markup

namespace Panel

/-- The elements of the bar, apart from those that stand in views too. -/
theorem every_navigation {P : Element Embedded → Prop} (hp : ∀ e : Element Embedded, e.OfView → P e)
    (p : Panel)
    (hbar : ∀ children, P ⟨.nav, [.plain .classes "tab-bar", .plain .tabId hostId], children⟩)
    (hbutton : ∀ classes id children,
      P ⟨.button, [.plain .classes classes, .plain .action selectWord, .data "tab" id], children⟩) :
    Every P p.navigation := by
  have hinert (e : Element Embedded) (h : e.isInert = true) := hp e (.of_isInert h)
  rw [navigation, every_element]
  refine ⟨hbar _, ?_⟩
  rw [everyAll_append, everyAll_map]
  constructor
  · intro t _
    refine (every_element ..).mpr ⟨hbutton _ _ _, ?_⟩
    simp [every_icon hinert, every_badge hinert]
  · refine (everyAll_cons ..).mpr ⟨(every_element ..).mpr ⟨?_, by simp⟩, everyAll_nil⟩
    exact hp _ ⟨.inl rfl, rfl⟩

/-- The buttons that choose a tab are elements of a document. -/
theorem ofDocument_navigation (p : Panel) : Every Element.OfDocument p.navigation :=
  every_navigation (fun _ => Element.OfView.ofDocument) p (fun _ => rfl) (fun _ _ _ => rfl)

/-- The panel of a tab is made of elements of a document, as its view is. -/
theorem ofDocument_tabPanel (t : Tab) (active : Bool) (now : Time.Instant) :
    Every Element.OfDocument (tabPanel t active now) := by
  rw [tabPanel, every_element, everyAll_cons, every_lift]
  refine ⟨by cases active <;> rfl, (t.every_ofView now).imp fun e he => ?_, everyAll_nil⟩
  exact (he.map _).ofDocument

/-- What stands in a document before what is shown. -/
def documentHead (p : Panel) : Node Embedded :=
  bare .head
    [ element .metadata [.plain .charset "utf-8"] []
    , labelled .title "devboard"
    , foreign (.styleSheet p.styleSheet) ]

/-- The head of the document is made of elements of a document. -/
theorem ofDocument_documentHead (p : Panel) : Every Element.OfDocument p.documentHead := by
  simp only [documentHead, bare, labelled, every_element, everyAll_cons, everyAll_nil,
    every_foreign, every_text, and_true]
  exact ⟨rfl, rfl, rfl⟩

/-- The bar and the panels of a document. -/
def shown (p : Panel) (now : Time.Instant) : List (Node Embedded) :=
  p.navigation :: p.tabs.map fun t => tabPanel t (p.isActive t) now

/-- So is all that is shown. -/
theorem ofDocument_shown (p : Panel) (now : Time.Instant) :
    EveryAll Element.OfDocument (p.shown now) := by
  rw [shown, everyAll_cons, everyAll_map]
  exact ⟨p.ofDocument_navigation, fun t _ => ofDocument_tabPanel t _ now⟩

/-- The document is its head, what is shown, and the scripts. -/
theorem documentTree_eq (p : Panel) (now : Time.Instant) :
    p.documentTree now =
      bare .html [p.documentHead,
        bare .body (p.shown now ++ p.scripts.map fun s => foreign (.script s))] := rfl

/-- The elements of a document are all as elements of documents are. -/
theorem every_ofDocument (p : Panel) (now : Time.Instant) :
    Every Element.OfDocument (p.documentTree now) := by
  simp only [documentTree_eq, bare, every_element, everyAll_cons, everyAll_append, everyAll_map,
    everyAll_nil, every_foreign, p.ofDocument_documentHead, p.ofDocument_shown now, implies_true,
    and_true, true_and]
  exact ⟨rfl, rfl⟩

/-- No script stands in the navigation. -/
theorem foreigns_navigation (p : Panel) : p.navigation.foreigns = [] := by
  have hbutton (t : Tab) (active : Bool) : (tabButton t active).foreigns = [] := by
    cases h : t.badge <;> simp [tabButton, icon, classed, badge, h]
  simp [navigation, foreignsAll_map, hbutton]

theorem foreigns_shown (p : Panel) (now : Time.Instant) : foreignsAll (p.shown now) = [] := by
  simp [shown, foreigns_navigation, foreignsAll_map, tabPanel]

theorem foreigns_documentHead (p : Panel) :
    p.documentHead.foreigns = [.styleSheet p.styleSheet] := by
  simp [documentHead, bare, labelled]

/-- What is foreign in a document. -/
theorem foreigns_documentTree (p : Panel) (now : Time.Instant) :
    (p.documentTree now).foreigns = .styleSheet p.styleSheet :: p.scripts.map .script := by
  simp [documentTree_eq, bare, foreigns_documentHead, foreigns_shown, foreignsAll_map,
    ← List.map_eq_flatMap]

/-- No script and no style sheet has an opening bracket, by which it could end early. -/
theorem lt_not_mem_foreigns (p : Panel) (now : Time.Instant) :
    ∀ x ∈ (p.documentTree now).foreigns, '<' ∉ x.body.toList := by
  rw [foreigns_documentTree, List.forall_mem_cons, List.forall_mem_map]
  exact ⟨p.not_mem_styleSheet (.inl rfl), p.lt_not_mem_scripts⟩

/-- The tokens of a document after its type. -/
def documentTokens (p : Panel) (now : Time.Instant) : List Token :=
  (p.documentTree now).tokens Embedded.tokens

/-- The document is a piece of markup and is read as its tokens. -/
theorem piece_documentTree (p : Panel) (now : Time.Instant) :
    Piece ["input", "meta"] (Token.Within documentTags documentAttributes)
      ((p.documentTree now).print Embedded.print).toList (p.documentTokens now) :=
  piece_print (fun _ => trivial) _ ((p.every_ofDocument now).imp fun _ => Element.OfDocument.known)
    fun x hx => Embedded.piece (p.lt_not_mem_foreigns now x hx)

/-- A document reads as its type and the tokens of its tree. -/
theorem tokens?_document (p : Panel) (now : Time.Instant) :
    tokens? (p.document now) = some (.doctype :: p.documentTokens now) := by
  have htype : Reads .text "<!DOCTYPE html>".toList [.doctype] .text := rfl
  have hread : Mode.text.read (p.document now).toList =
      some (.doctype :: p.documentTokens now, .text) := by
    unfold document
    rw [String.toList_append]
    exact htype.append (p.piece_documentTree now).reads
  simp only [tokens?, hread]

/-! ### Scripts, style sheets and panels in documents -/

/-- Elements that say nothing of panels are read as tokens that do not either. -/
theorem isQuiet_tokens {n : Node Embedded}
    (hn : Every (Element.Known ["input", "meta"] Token.IsQuiet) n) (hf : n.foreigns = []) :
    ∀ t ∈ n.tokens Embedded.tokens, t.IsQuiet := by
  have hpiece : Piece ["input", "meta"] Token.IsQuiet (n.print Embedded.print).toList
      (n.tokens Embedded.tokens) := piece_print (fun _ => ⟨rfl, rfl⟩) n hn (by simp [hf])
  exact hpiece.within

/-- The navigation says nothing of panels. -/
theorem quiet_navigation (p : Panel) : ∀ t ∈ p.navigation.tokens Embedded.tokens, t.IsQuiet :=
  isQuiet_tokens
    (every_navigation (fun _ => Element.OfView.quiet) p
      (fun _ => Element.OfDocument.quiet rfl (by simp))
      (fun _ _ _ => Element.OfDocument.quiet rfl (by simp)))
    p.foreigns_navigation

/-- The view of a tab says nothing of panels. -/
theorem quiet_content (t : Tab) (now : Time.Instant) :
    ∀ token ∈ ((t.content now).lift : Node Embedded).tokens Embedded.tokens, token.IsQuiet :=
  isQuiet_tokens ((every_lift _).mpr ((t.every_ofView now).imp fun _ he => (he.map _).quiet))
    (foreigns_lift _)

/-- The start tag of the panel of a tab. -/
def panelStart (t : Tab) (active : Bool) : Token :=
  .opening "section" <|
    [("class", some ("tab-panel" ++ activeClass active)), ("id", some ("panel-" ++ t.id)),
      ("data-tab-id", some t.id)] ++ if active then [] else [("hidden", none)]

theorem panelTab?_panelStart (t : Tab) (active : Bool) :
    (panelStart t active).panelTab? = some (some t.id) := by
  cases active <;> rfl

/-- The section of a tab is its start, the view of the tab and its end. -/
theorem tokens_tabPanel (t : Tab) (active : Bool) (now : Time.Instant) :
    (tabPanel t active now).tokens Embedded.tokens =
      panelStart t active :: ((t.content now).lift : Node Embedded).tokens Embedded.tokens ++
        [.closing "section"] := by
  cases active <;> simp [tabPanel, Node.tokens, Node.tokensAll, panelStart, Tag.isVoid, Tag.name,
    Attribute.reading, Attribute.label, Attribute.content, Attribute.flagIf, Attribute.Name.text,
    Attribute.Flag.text]

/-- The tokens of the document, with those that tell of panels in their places. -/
theorem documentTokens_eq (p : Panel) (now : Time.Instant) :
    p.documentTokens now =
      [.opening "html" [], .opening "head" [], .opening "meta" [("charset", some "utf-8")],
        .opening "title" []] ++ "devboard".toList.map .char ++ [.closing "title"] ++
      Embedded.tokens (.styleSheet p.styleSheet) ++ [.closing "head", .opening "body" []] ++
      p.navigation.tokens Embedded.tokens ++
      (p.tabs.flatMap fun t => (tabPanel t (p.isActive t) now).tokens Embedded.tokens) ++
      (p.scripts.flatMap fun s => Embedded.tokens (.script s)) ++
      [.closing "body", .closing "html"] := by
  simp [documentTokens, documentTree, bare, labelled, Node.tokens, Node.tokensAll,
    tokensAll_eq_flatMap, List.flatMap_map, Tag.isVoid, Tag.name, Attribute.reading,
    Attribute.label, Attribute.content, Attribute.Name.text]

/-- What is found in a document and not in quiet tokens: its style sheet, the starts of panels and
    the scripts. -/
theorem filterMap_documentTokens {α : Type} {g : Token → Option α}
    (hg : ∀ t : Token, t.IsQuiet → g t = none) (p : Panel) (now : Time.Instant) :
    (p.documentTokens now).filterMap g =
      (Embedded.tokens (.styleSheet p.styleSheet)).filterMap g ++
      (p.tabs.flatMap fun t => (g (panelStart t (p.isActive t))).toList) ++
      p.scripts.flatMap fun s => (Embedded.tokens (.script s)).filterMap g := by
  have hquiet {ts : List Token} (h : ∀ t ∈ ts, t.IsQuiet) : ts.filterMap g = [] :=
    List.filterMap_eq_nil_iff.mpr fun t ht => hg t (h t ht)
  have hchar (c : Char) : g (.char c) = none := hg _ ⟨rfl, rfl⟩
  have hclosing (name : String) : g (.closing name) = none := hg _ ⟨rfl, rfl⟩
  have hopening (name : String) (hn : name ≠ "section") (as : List (String × Option String)) :
      g (.opening name as) = none := hg _ (Token.isQuiet_opening hn as)
  -- Of a panel all tokens are quiet but the tag that opens it.
  have hpanel (t : Tab) (active : Bool) :
      ((tabPanel t active now).tokens Embedded.tokens).filterMap g =
        (g (panelStart t active)).toList := by
    rw [tokens_tabPanel, List.filterMap_append, List.filterMap_cons, hquiet (quiet_content t now)]
    cases g (panelStart t active) <;> simp [hclosing]
  rw [documentTokens_eq]
  simp [List.filterMap_flatMap, hquiet p.quiet_navigation, hpanel, hchar,
    hclosing, hopening]

/-- The style sheet of a document and its scripts, in their order. -/
theorem raws_documentTokens (p : Panel) (now : Time.Instant) :
    (p.documentTokens now).filterMap Token.raw? = p.styleSheet :: p.scripts := by
  rw [filterMap_documentTokens fun _ h => h.1]
  have hpanel (t : Tab) : (panelStart t (p.isActive t)).raw? = none := rfl
  have hscript (s : String) : (Embedded.tokens (.script s)).filterMap Token.raw? = [s] := rfl
  have hstyles : (Embedded.tokens (.styleSheet p.styleSheet)).filterMap Token.raw? =
      [p.styleSheet] := rfl
  simp [hpanel, hscript, hstyles]

/-- Every tab has one panel in a document, in the order of the tabs. -/
theorem panels_documentTokens (p : Panel) (now : Time.Instant) :
    (p.documentTokens now).filterMap Token.panelTab? = p.tabs.map (some ·.id) := by
  rw [filterMap_documentTokens fun _ h => h.2]
  have hembedded (x : Embedded) : x.tokens.filterMap Token.panelTab? = [] := by cases x <;> rfl
  simp [panelTab?_panelStart, hembedded, ← List.map_eq_flatMap]

end Panel

/-! ### The characters of documents -/

namespace Markup

/-- Escaped text has no apostrophe. -/
theorem apos_not_mem_escapeChars (cs : List Char) : '\'' ∉ Text.escapeChars cs := by
  rw [Text.escapeChars, List.mem_flatMap]
  rintro ⟨c, -, h⟩
  cases hc : Text.Entity.ofChar? c with
  | some e =>
    simp only [Text.escapeChar, hc] at h
    revert h
    cases e <;> decide
  | none =>
    simp only [Text.escapeChar, hc, List.mem_singleton] at h
    exact (Entity.ofChar?_eq_none hc).2.2.2.2 h.symm

/-- A name has no apostrophe. -/
theorem apos_not_mem_name {s : String} (hs : isName s = true) : '\'' ∉ s.toList := by
  obtain ⟨-, hall⟩ := (Bool.and_eq_true _ _).mp hs
  exact fun h => absurd (List.all_eq_true.mp hall _ h) (by decide)

/-- What is written for attributes has no apostrophe, as they stand in double quotes. -/
theorem apos_not_mem_attributes {as : List Attribute}
    (hn : ∀ a ∈ as, isName a.label = true) : '\'' ∉ (Attribute.printAll as).toList := by
  induction as with
  | nil => simp [Attribute.printAll]
  | cons a as ih =>
    have ha := hn a List.mem_cons_self
    have hlabel := apos_not_mem_name ha
    rw [Attribute.printAll]
    refine not_mem_append ?_ (ih fun b hb => hn b (List.mem_cons_of_mem _ hb))
    rw [Attribute.toList_print ha]
    cases a.content with
    | none => simp [hlabel]
    | some v => simp [hlabel, apos_not_mem_escapeChars]

theorem apos_not_mem_tagName (tag : Tag) : '\'' ∉ tag.name.toList := by
  cases tag <;> decide

/-- A tag that is opened has no apostrophe. -/
theorem apos_not_mem_opening (tag : Tag) {as : List Attribute}
    (hn : ∀ a ∈ as, isName a.label = true) : '\'' ∉ (tag.opening as).toList := by
  have hname := apos_not_mem_tagName tag
  have has := apos_not_mem_attributes hn
  simp [Tag.opening, hname, has]

/-- A tag that is closed has none. -/
theorem apos_not_mem_closing (tag : Tag) : '\'' ∉ tag.closing.toList := by
  have hname := apos_not_mem_tagName tag
  simp [Tag.closing, hname]

section

variable {ρ : Type} {draw : ρ → String}

mutual

/-- No character of a text or a value is written as a single quote. -/
theorem Node.apos_not_mem_print (n : Node ρ)
    (hn : n.Every fun e => ∀ a ∈ e.attributes, isName a.label = true)
    (hf : ∀ x ∈ n.foreigns, '\'' ∉ (draw x).toList) : '\'' ∉ (n.print draw).toList :=
  match n with
  | .text s => by
    rw [Node.print]
    exact Text.toList_escape s ▸ apos_not_mem_escapeChars s.toList
  | .element tag as children => by
    have h := (every_element tag as children).mp hn
    rw [foreigns_element] at hf
    have hopening := apos_not_mem_opening tag h.1
    have hclosing := apos_not_mem_closing tag
    rw [Node.print]
    -- Where there is no end tag there are no children.
    split
    · exact hopening
    · exact not_mem_append
        (not_mem_append hopening (Node.apos_not_mem_printAll children h.2 hf)) hclosing
  | .foreign x => by
    rw [Node.print]
    exact hf x (by simp)

theorem Node.apos_not_mem_printAll (ns : List (Node ρ))
    (hn : Node.EveryAll (fun e => ∀ a ∈ e.attributes, isName a.label = true) ns)
    (hf : ∀ x ∈ Node.foreignsAll ns, '\'' ∉ (draw x).toList) :
    '\'' ∉ (Node.printAll draw ns).toList :=
  match ns with
  | [] => by simp [printAll]
  | n :: ns => by
    have h := (everyAll_cons n ns).mp hn
    rw [foreignsAll_cons] at hf
    rw [printAll]
    exact not_mem_append
      (Node.apos_not_mem_print n h.1 fun x hx => hf x (List.mem_append_left _ hx))
      (Node.apos_not_mem_printAll ns h.2 fun x hx => hf x (List.mem_append_right _ hx))

end

end

end Markup

namespace Panel

/-- The head of the document has no apostrophe. -/
theorem apos_not_mem_documentHead (p : Panel) :
    '\'' ∉ (p.documentHead.print Embedded.print).toList := by
  refine Node.apos_not_mem_print _ (p.ofDocument_documentHead.imp fun _ h => h.known.isName) ?_
  have hstyles := p.not_mem_styleSheet (.inr rfl)
  simpa [foreigns_documentHead, Embedded.print] using hstyles

/-- What is shown has no apostrophe. -/
theorem apos_not_mem_shown (p : Panel) (now : Time.Instant) :
    '\'' ∉ (Node.printAll Embedded.print (p.shown now)).toList :=
  Node.apos_not_mem_printAll _ (fun e he => (p.ofDocument_shown now e he).known.isName)
    (by simp [foreigns_shown])

theorem print_bare (tag : Tag) (hv : tag.isVoid = false) (ns : List (Node Embedded)) :
    (bare tag ns).print Embedded.print =
      tag.opening [] ++ Node.printAll Embedded.print ns ++ tag.closing := by
  simp [bare, Node.print, hv]

/-- What stands in a document before its first script. -/
def documentStart (p : Panel) (now : Time.Instant) : String :=
  "<!DOCTYPE html>" ++ Tag.html.opening [] ++ p.documentHead.print Embedded.print ++
    Tag.body.opening [] ++ Node.printAll Embedded.print (p.shown now)

/-- The scripts of a document after the first one. -/
def laterScripts (p : Panel) : List String :=
  Wiring.script hostId hostBindings :: p.tabs.map Tab.script

/-- What stands in a document after its first script. -/
def documentEnd (p : Panel) : String :=
  Node.printAll Embedded.print (p.laterScripts.map fun s => foreign (Embedded.script s)) ++
    Tag.body.closing ++ Tag.html.closing

/-- The document around the first of its scripts. -/
theorem document_eq (p : Panel) (now : Time.Instant) :
    p.document now =
      p.documentStart now ++ (Embedded.script Wiring.bootstrap).print ++ p.documentEnd := by
  have hscripts : p.scripts.map (fun s => foreign (Embedded.script s)) =
      foreign (Embedded.script Wiring.bootstrap) ::
        p.laterScripts.map fun s => foreign (Embedded.script s) := rfl
  have hbody (ns : List (Node Embedded)) := print_bare .body rfl ns
  have hhtml (ns : List (Node Embedded)) := print_bare .html rfl ns
  have hforeign (x : Embedded) : (foreign x).print Embedded.print = x.print := by rw [Node.print]
  -- Where the scripts are cut, the rest of the text is joined in another order.
  have hassoc (t h d b n s l c e : String) :
      t ++ (h ++ (d ++ (b ++ (n ++ (s ++ l)) ++ c ++ "")) ++ e) =
        t ++ h ++ d ++ b ++ n ++ s ++ (l ++ c ++ e) := by
    simp only [String.append_assoc, String.append_empty]
  unfold document
  rw [documentTree_eq]
  simp only [hhtml, hbody, hscripts, printAll_append, Node.printAll, hforeign]
  exact hassoc ..

/-- In front of the first script stands no apostrophe. -/
theorem apos_not_mem_documentStart (p : Panel) (now : Time.Instant) :
    '\'' ∉ (p.documentStart now).toList := by
  have hopening (tag : Tag) : '\'' ∉ (tag.opening []).toList := apos_not_mem_opening tag (by simp)
  exact not_mem_append (not_mem_append (not_mem_append (not_mem_append (not_mem_ofList rfl)
    (hopening .html)) p.apos_not_mem_documentHead) (hopening .body)) (p.apos_not_mem_shown now)

/-- The other scripts have no ampersand. -/
theorem amp_not_mem_laterScripts (p : Panel) : ∀ s ∈ p.laterScripts, '&' ∉ s.toList := by
  rw [laterScripts, List.forall_mem_cons, List.forall_mem_map]
  exact ⟨Wiring.not_mem_script (.inl (.inr rfl)) _ _,
    fun t _ => Wiring.not_mem_script (.inl (.inr rfl)) _ _⟩

/-- After the script that installs the registry there is no ampersand. -/
theorem amp_not_mem_documentEnd (p : Panel) : '&' ∉ p.documentEnd.toList := by
  refine not_mem_append (not_mem_append ?_ (by decide)) (by decide)
  have hscripts := p.amp_not_mem_laterScripts
  revert hscripts
  generalize p.laterScripts = scripts
  intro hscripts
  induction scripts with
  | nil => simp [Node.printAll]
  | cons s scripts ih =>
    have hs := hscripts s List.mem_cons_self
    rw [List.map_cons, Node.printAll, Node.print, Embedded.print]
    exact not_mem_append (not_mem_append (not_mem_append (by decide) hs) (by decide))
      (ih fun s hs => hscripts s (List.mem_cons_of_mem _ hs))

/-- The script that installs the registry stands once in a document: what is before it has no single
    quote, and what is after it no ampersand. -/
theorem occurrences_bootstrap (p : Panel) (now : Time.Instant) :
    Text.occurrences Wiring.bootstrap.toList (p.document now).toList = 1 := by
  have hsplit (pre body post : String) :
      (pre ++ (Embedded.script body).print ++ post).toList =
        pre.toList ++
          '<' :: ("script>".toList ++ body.toList ++ '<' :: ("/script>" ++ post).toList) := by
    simp [Embedded.print]
  have hne : Wiring.bootstrap.toList ≠ [] := List.ne_nil_of_mem Wiring.amp_mem_bootstrap
  have hlt := Wiring.lt_not_mem_bootstrap
  have hbefore := Text.occurrences_eq_zero Wiring.apos_mem_bootstrap
    (p.apos_not_mem_documentStart now)
  have hafter : '&' ∉ ("/script>" ++ p.documentEnd).toList :=
    not_mem_append (by decide) p.amp_not_mem_documentEnd
  obtain ⟨cs, hcs⟩ := Wiring.bootstrap_head
  have hself : Text.occurrences Wiring.bootstrap.toList
      ("script>".toList ++ Wiring.bootstrap.toList) = 1 := by
    rw [hcs]
    exact Text.occurrences_append_self (by decide)
  -- The tags around the script divide the document, and the script occurs in none of the other
  -- parts.
  rw [document_eq, hsplit, Text.occurrences_append_cons hne hlt,
    Text.occurrences_append_cons hne hlt, hbefore, hself,
    Text.occurrences_eq_zero Wiring.amp_mem_bootstrap hafter]

end Panel

/-! ### Views and documents -/

/-- Whatever a tab has loaded, its view reads as markup: it is read to its end, to the tags and the
    text that it was made of, the tags nest, and no tag and no attribute is there beyond those of
    the templates. So is the document of a panel, which starts with its type. The bodies of its
    style sheet and its scripts have no character that could start an end tag, the script that
    installs the registry stands once in it, and every tab has one panel. -/
theorem views_and_documents_are_markup :
    (∀ (t : Tab) (now : Time.Instant),
      tokens? (t.content now).html = some ((t.content now).tokens Empty.elim) ∧
      WellFormed ["input"] contentTags contentAttributes ((t.content now).tokens Empty.elim)) ∧
    ∀ (p : Panel) (now : Time.Instant), ∃ ts,
      tokens? (p.document now) = some (.doctype :: ts) ∧
      WellFormed ["input", "meta"] documentTags documentAttributes ts ∧
      ts.filterMap Token.raw? = p.styleSheet :: p.scripts ∧
      (∀ body ∈ ts.filterMap Token.raw?, '<' ∉ body.toList) ∧
      Text.occurrences Wiring.bootstrap.toList (p.document now).toList = 1 ∧
      ts.filterMap Token.panelTab? = p.tabs.map (some ·.id) := by
  constructor
  · intro t now
    have hpiece := t.piece_content now
    exact ⟨hpiece.tokens?_eq, hpiece.nests, hpiece.within⟩
  · intro p now
    have hpiece := p.piece_documentTree now
    refine ⟨p.documentTokens now, p.tokens?_document now, ⟨hpiece.nests, hpiece.within⟩,
      p.raws_documentTokens now, ?_, p.occurrences_bootstrap now, p.panels_documentTokens now⟩
    rw [p.raws_documentTokens, List.forall_mem_cons]
    exact ⟨p.not_mem_styleSheet (.inl rfl), p.lt_not_mem_scripts⟩

end Dashboard
