import Dashboard.Markup.Element
import Dashboard.Markup.Printer
import Dashboard.Markup.Token
/-!
# Reading what was written

The text of a tree reads as the tags of its elements and the characters of its text, whatever
characters the text and the attribute values hold.

* `Reads` — what is read from characters, and where the reader is after them.
* `reads_escape`, `reads_value` — escaped text reads as the text.
* `reads_attributes`, `reads_opening`, `reads_closing` — tags.
* `Piece` — characters that read as markup in itself, with tags that nest.
* `Node.piece_print` — the text of a tree is a piece of markup.
-/

namespace Dashboard.Markup

/-! ### Reading in steps -/

/-- From a place in the text the characters read as some tokens up to another place. -/
def Reads (m : Mode) (cs : List Char) (ts : List Token) (m' : Mode) : Prop :=
  m.read cs = some (ts, m')

namespace Reads

variable {m m' m'' : Mode} {cs ds : List Char} {ts us : List Token} {c : Char}

theorem nil (m : Mode) : Reads m [] [] m := rfl

/-- One step gives the first tokens, and the rest is read in the mode after it. -/
theorem step (h : m.step c = some (ts, m')) (hr : Reads m' cs us m'') :
    Reads m (c :: cs) (ts ++ us) m'' := by
  simp only [Reads, Mode.read, h] at hr ⊢
  simp [hr]

theorem silent {n : Mode} (h : m.step c = some ([], n)) (hr : Reads n cs us m'') :
    Reads m (c :: cs) us m'' :=
  step h hr

theorem single (h : m.step c = some (ts, m')) : Reads m [c] ts m' := by
  simpa using step h (nil m')

/-- What is read one after the other is read together. -/
theorem append (h : Reads m cs ts m') (hr : Reads m' ds us m'') :
    Reads m (cs ++ ds) (ts ++ us) m'' := by
  induction cs generalizing m ts with
  | nil =>
    cases h
    exact hr
  | cons c cs ih =>
    simp only [Reads, Mode.read, Option.bind_eq_bind, Option.bind_eq_some_iff] at h
    obtain ⟨⟨ts₁, m₁⟩, hstep, ⟨ts₂, m₂⟩, hrest, heq⟩ := h
    cases heq
    rw [List.cons_append, List.append_assoc]
    exact step hstep (ih hrest)

end Reads

/-! ### Escaped text -/

/-- An entity that a character has stands for that character. -/
theorem Entity.ofChar?_eq_some {c : Char} {e : Text.Entity} (h : Text.Entity.ofChar? c = some e) :
    e.char = c := by
  simp only [Text.Entity.ofChar?] at h
  split at h <;> cases h <;> rfl

theorem Entity.ofChar?_eq_none {c : Char} (h : Text.Entity.ofChar? c = none) :
    c ≠ '&' ∧ c ≠ '<' ∧ c ≠ '>' ∧ c ≠ '"' ∧ c ≠ '\'' := by
  refine ⟨?_, ?_, ?_, ?_, ?_⟩ <;> rintro rfl <;> cases h

theorem reads_entity (e : Text.Entity) : Reads .text ('&' :: e.tail) [.char e.char] .text := by
  cases e <;> rfl

/-- What is written for a character in text is read as the character. -/
theorem reads_escapeChar (c : Char) : Reads .text (Text.escapeChar c) [.char c] .text := by
  cases h : Text.Entity.ofChar? c with
  | some e =>
    simp only [Text.escapeChar, h]
    exact Entity.ofChar?_eq_some h ▸ reads_entity e
  | none =>
    obtain ⟨hamp, hlt, -⟩ := Entity.ofChar?_eq_none h
    simp only [Text.escapeChar, h]
    exact .single (by simp [Mode.step, hamp, hlt])

/-- Escaped text reads as the text. -/
theorem reads_escape (s : String) :
    Reads .text (Text.escape s).toList (s.toList.map .char) .text := by
  rw [Text.toList_escape]
  induction s.toList with
  | nil => exact .nil _
  | cons c cs ih => exact (reads_escapeChar c).append ih

theorem reads_valueEntity (s : Start) (name : String) (seen : List Char) (e : Text.Entity) :
    Reads (.value s name seen) ('&' :: e.tail) [] (.value s name (seen ++ [e.char])) := by
  cases e <;> rfl

/-- An escaped value reads as the value. -/
theorem reads_value (s : Start) (name : String) (seen cs : List Char) :
    Reads (.value s name seen) (Text.escapeChars cs) [] (.value s name (seen ++ cs)) := by
  induction cs generalizing seen with
  | nil => simpa [Text.escapeChars] using Reads.nil _
  | cons c cs ih =>
    -- One character: it is written as an entity, or it ends no value.
    have hc : Reads (.value s name seen) (Text.escapeChar c) [] (.value s name (seen ++ [c])) := by
      cases h : Text.Entity.ofChar? c with
      | some e =>
        simp only [Text.escapeChar, h]
        exact Entity.ofChar?_eq_some h ▸ reads_valueEntity s name seen e
      | none =>
        obtain ⟨hamp, -, -, hquot, -⟩ := Entity.ofChar?_eq_none h
        simp only [Text.escapeChar, h]
        exact .single (by simp [Mode.step, hamp, hquot])
    simpa [Text.escapeChars] using hc.append (ih (seen ++ [c]))

/-! ### Tags -/

/-- Whether a text is a name. -/
def isName (s : String) : Bool := s ≠ "" && s.toList.all isNameChar

/-- Where a start tag can end or go on with an attribute. -/
inductive Ready : Mode → Start → Prop
  | opening (name : List Char) : Ready (.opening name) ⟨String.ofList name, []⟩
  | label (s : Start) (name : List Char) :
    Ready (.label s name) (s.add (String.ofList name) none)
  | quoted (s : Start) : Ready (.quoted s) s

/-- Behind the name of a tag or an attribute, a space and the closing bracket do what they do
    anywhere. -/
theorem Ready.step {m : Mode} {s : Start} (h : Ready m s) {c : Char} (hc : c = ' ' ∨ c = '>') :
    m.step c = s.next c := by
  have hn : isNameChar c = false := by rcases hc with rfl | rfl <;> decide
  have heq : c ≠ '=' := by rcases hc with rfl | rfl <;> decide
  cases h <;> simp [Mode.step, hn, heq]

/-- The characters of a name are collected. -/
theorem reads_label (s : Start) (name cs : List Char) (hn : cs.all isNameChar = true) :
    Reads (.label s name) cs [] (.label s (name ++ cs)) := by
  induction cs generalizing name with
  | nil => simpa using Reads.nil _
  | cons c cs ih =>
    obtain ⟨hc, hn⟩ := (Bool.and_eq_true _ _).mp hn
    simpa using Reads.silent (n := .label s (name ++ [c])) (by simp [Mode.step, hc])
      (ih (name ++ [c]) hn)

/-- The name of an attribute after a start tag that goes on. -/
theorem Ready.reads_name {m : Mode} {s : Start} (h : Ready m s) {name : String}
    (hn : isName name = true) :
    Reads m (' ' :: name.toList) [] (.label s name.toList) := by
  obtain ⟨hne, hall⟩ := (Bool.and_eq_true _ _).mp hn
  refine .silent (n := .gap s) (h.step (.inl rfl)) ?_
  cases hcs : name.toList with
  | nil =>
    have hempty : name = "" := String.toList_eq_nil_iff.mp hcs
    simp [hempty] at hne
  | cons c cs =>
    rw [hcs] at hall
    obtain ⟨hc, hall⟩ := (Bool.and_eq_true _ _).mp hall
    exact .silent (n := .label s [c]) (by simp [Mode.step, hc]) (reads_label s [c] cs hall)

/-- Names are written as they are. -/
theorem escapeChars_of_isNameChar {cs : List Char} (hn : cs.all isNameChar = true) :
    Text.escapeChars cs = cs := by
  induction cs with
  | nil => rfl
  | cons c cs ih =>
    obtain ⟨hc, hn⟩ := (Bool.and_eq_true _ _).mp hn
    have hnone : Text.Entity.ofChar? c = none := by
      cases h : Text.Entity.ofChar? c with
      | none => rfl
      | some e =>
        have := Entity.ofChar?_eq_some h ▸ hc
        revert this
        cases e <;> decide
    simpa [Text.escapeChars, Text.escapeChar, hnone] using ih hn

/-- An attribute is written as its name and its value, if it has one. -/
theorem Attribute.toList_print {a : Attribute} (hn : isName a.label = true) :
    a.print.toList = ' ' :: a.label.toList ++
      match a.content with
      | some v => '=' :: '"' :: Text.escapeChars v.toList ++ ['"']
      | none => [] := by
  obtain ⟨-, hall⟩ := (Bool.and_eq_true _ _).mp hn
  cases a with
  | plain name value => simp [print, label, content]
  | flag name => simp [print, label, content]
  | data name value =>
    simp only [label, String.toList_append, List.all_append, Bool.and_eq_true] at hall
    simp [print, label, content, escapeChars_of_isNameChar hall.2]

/-- What is written for an attribute is read as the attribute. -/
theorem Ready.reads_attribute {m : Mode} {s : Start} (h : Ready m s) {a : Attribute}
    (hn : isName a.label = true) :
    ∃ m', Reads m a.print.toList [] m' ∧ Ready m' (s.add a.label a.content) := by
  have hname := h.reads_name hn
  rw [Attribute.toList_print hn]
  cases hc : a.content with
  | none =>
    refine ⟨_, by simpa using hname, ?_⟩
    simpa using Ready.label s a.label.toList
  | some v =>
    have hvalue := reads_value s a.label [] v.toList
    -- The label ends at the equals sign, and the value at the quote behind it.
    have hstart : Reads (.label s a.label.toList) ['=', '"'] [] (.value s a.label []) :=
      .silent (n := .equals s a.label)
        (by simp [Mode.step, show isNameChar '=' = false from rfl]) (.single rfl)
    have hend : Reads (.value s a.label v.toList) ['"'] [] (.quoted (s.add a.label (some v))) :=
      .single (by simp [Mode.step])
    refine ⟨_, ?_, .quoted _⟩
    simpa using ((hname.append hstart).append hvalue).append hend

/-- The same of all attributes of a tag, in their order. -/
theorem Ready.reads_attributes {m : Mode} {s : Start} (h : Ready m s) {as : List Attribute}
    (hn : ∀ a ∈ as, isName a.label = true) :
    ∃ m', Reads m (Attribute.printAll as).toList [] m' ∧
      Ready m' { s with attributes := s.attributes ++ as.map Attribute.reading } := by
  induction as generalizing m s with
  | nil => exact ⟨m, .nil m, by simpa using h⟩
  | cons a as ih =>
    obtain ⟨m₁, hread, hready⟩ := h.reads_attribute (hn a List.mem_cons_self)
    obtain ⟨m₂, hrest, hlast⟩ := ih hready fun b hb => hn b (List.mem_cons_of_mem _ hb)
    refine ⟨m₂, ?_, by simpa [Start.add, Attribute.reading] using hlast⟩
    rw [Attribute.printAll, String.toList_append]
    exact hread.append hrest

theorem reads_tagName (tag : Tag) :
    Reads .text ('<' :: tag.name.toList) [] (.opening tag.name.toList) := by
  cases tag <;> rfl

theorem rawNames_contains (tag : Tag) : rawNames.contains tag.name = false := by
  cases tag <;> rfl

/-- A start tag. -/
theorem reads_opening (tag : Tag) {as : List Attribute} (hn : ∀ a ∈ as, isName a.label = true) :
    Reads .text (tag.opening as).toList [.opening tag.name (as.map Attribute.reading)] .text := by
  have hready : Ready (.opening tag.name.toList) ⟨tag.name, []⟩ := by
    simpa using Ready.opening tag.name.toList
  obtain ⟨m, hread, hready⟩ := hready.reads_attributes hn
  have hend : Reads m ['>'] [.opening tag.name (as.map Attribute.reading)] .text := by
    refine .single ?_
    rw [hready.step (.inr rfl)]
    simp only [Start.next, Start.finish, rawNames_contains]
    simp
  simpa [Tag.opening] using ((reads_tagName tag).append hread).append hend

theorem reads_closing (tag : Tag) : Reads .text tag.closing.toList [.closing tag.name] .text := by
  cases tag <;> rfl

/-- Raw text is collected up to the next bracket. -/
theorem reads_body (name : String) (body : List Char) {cs : List Char} (hc : '<' ∉ cs) :
    Reads (.raw name body) cs [] (.raw name (body ++ cs)) := by
  induction cs generalizing body with
  | nil => simpa using Reads.nil _
  | cons c cs ih =>
    rw [List.mem_cons, not_or] at hc
    obtain ⟨hne, hc⟩ := hc
    simpa using Reads.silent (n := .raw name (body ++ [c]))
      (by simp [Mode.step, Ne.symm hne]) (ih (body ++ [c]) hc)

/-! ### Pieces of markup -/

/-- Characters that read as markup in itself: their tags nest, and all tokens have a property. -/
structure Piece (void : List String) (W : Token → Prop) (cs : List Char) (ts : List Token) :
    Prop where
  reads : Reads .text cs ts .text
  balanced : ∀ stack rest, nests void stack (ts ++ rest) = nests void stack rest
  within : ∀ t ∈ ts, W t

namespace Piece

variable {void : List String} {W : Token → Prop} {cs ds : List Char} {ts us : List Token}

/-- Nothing is written for no nodes. -/
theorem nil : Piece void W [] [] where
  reads := .nil _
  balanced _ _ := rfl
  within := by simp

/-- Pieces of markup one after the other are a piece of markup. -/
theorem append (h : Piece void W cs ts) (h' : Piece void W ds us) :
    Piece void W (cs ++ ds) (ts ++ us) where
  reads := h.reads.append h'.reads
  balanced stack rest := by rw [List.append_assoc, h.balanced, h'.balanced]
  within t ht := (List.mem_append.mp ht).elim (h.within t) (h'.within t)

/-- Text is a piece of markup, whatever characters it has. -/
theorem escape (hw : ∀ c, W (.char c)) (s : String) :
    Piece void W (Text.escape s).toList (s.toList.map .char) where
  reads := reads_escape s
  balanced stack rest := by
    induction s.toList with
    | nil => rfl
    | cons c cs ih => cases stack <;> simpa [nests] using ih
  within := by
    simp only [List.mem_map]
    rintro _ ⟨c, -, rfl⟩
    exact hw c

/-- A body without `<` is read to its end. -/
theorem raw {name : String} {start body stop : List Char}
    (hstart : Reads .text start [.opening name []] (.raw name []))
    (hstop : ∀ cs, Reads (.raw name cs) stop [.raw (String.ofList cs), .closing name] .text)
    (hbody : '<' ∉ body) (hv : void.contains name = false)
    (hw : ∀ t ∈ [.opening name [], .raw (String.ofList body), .closing name], W t) :
    Piece void W (start ++ body ++ stop)
      [.opening name [], .raw (String.ofList body), .closing name] where
  reads := by simpa using (hstart.append (reads_body name [] hbody)).append (hstop body)
  balanced stack rest := by
    simp only [List.cons_append, List.nil_append, nests, hv, Bool.false_eq_true, if_false]
    simp
  within := hw

/-- In a piece of markup every element that is opened is closed. -/
theorem nests (h : Piece void W cs ts) : nests void [] ts = true := by
  simpa [Markup.nests] using h.balanced [] []

/-- A text that is a piece of markup is read as its tokens. -/
theorem tokens?_eq {s : String} (h : Piece void W s.toList ts) : tokens? s = some ts := by
  have hr : Mode.text.read s.toList = some (ts, .text) := h.reads
  simp only [tokens?, hr]

end Piece

/-! ### Trees -/

variable {ρ : Type}

/-- An element whose tags have a property and whose attributes have names. -/
structure Element.Known (void : List String) (W : Token → Prop) (e : Element ρ) : Prop where
  void_eq : void.contains e.tag.name = e.tag.isVoid
  isName : ∀ a ∈ e.attributes, isName a.label = true
  opening : W (.opening e.tag.name (e.attributes.map Attribute.reading))
  closing : W (.closing e.tag.name)

variable {void : List String} {W : Token → Prop} {draw : ρ → String} {f : ρ → List Token}

/-- The text of an element is a piece of markup if that of its children is. -/
theorem Node.piece_element {tag : Tag} {as : List Attribute} {children : List (Node ρ)}
    (he : Element.Known void W ⟨tag, as, children⟩)
    (hc : Piece void W (Node.printAll draw children).toList (Node.tokensAll f children)) :
    Piece void W ((Node.element tag as children).print draw).toList
      ((Node.element tag as children).tokens f) := by
  have hread := reads_opening tag he.isName
  have hvoid := he.void_eq
  simp only at hvoid
  -- An element without an end tag is its opening tag alone.
  by_cases hv : tag.isVoid = true
  · simp only [Node.print, Node.tokens, hv, if_true]
    exact
      { reads := hread
        balanced := fun stack rest => by
          simp only [List.cons_append, List.nil_append, nests, hvoid, hv, if_true]
        within := by simpa using he.opening }
  · simp only [Node.print, Node.tokens, hv, Bool.false_eq_true, if_false, String.toList_append]
    exact
      { reads := by simpa using (hread.append hc.reads).append (reads_closing tag)
        balanced := fun stack rest => by
          simp only [List.cons_append, List.append_assoc, List.nil_append, nests, hvoid, hv,
            Bool.false_eq_true, if_false, hc.balanced]
          simp
        within := by
          simp only [List.mem_cons, List.mem_append, List.not_mem_nil, or_false]
          rintro t (rfl | ht | rfl)
          · exact he.opening
          · exact hc.within t ht
          · exact he.closing }

mutual

/-- The text of a tree is a piece of markup if its elements are known and what is foreign in it is
    markup too. -/
theorem Node.piece_print (hw : ∀ c, W (.char c)) (n : Node ρ)
    (hn : n.Every (Element.Known void W))
    (hf : ∀ x ∈ n.foreigns, Piece void W (draw x).toList (f x)) :
    Piece void W (n.print draw).toList (n.tokens f) :=
  match n with
  | .text s => by
    simp only [Node.print, Node.tokens]
    exact .escape hw s
  | .element tag as children => by
    have h := (every_element tag as children).mp hn
    rw [foreigns_element] at hf
    exact piece_element h.1 (Node.piece_printAll hw children h.2 hf)
  | .foreign x => by
    simp only [Node.print, Node.tokens]
    exact hf x (by simp)

theorem Node.piece_printAll (hw : ∀ c, W (.char c)) (ns : List (Node ρ))
    (hn : Node.EveryAll (Element.Known void W) ns)
    (hf : ∀ x ∈ Node.foreignsAll ns, Piece void W (draw x).toList (f x)) :
    Piece void W (Node.printAll draw ns).toList (Node.tokensAll f ns) :=
  match ns with
  | [] => by
    simp only [Node.printAll, Node.tokensAll]
    exact .nil
  | n :: ns => by
    have h := (everyAll_cons n ns).mp hn
    rw [foreignsAll_cons] at hf
    simp only [Node.printAll, Node.tokensAll, String.toList_append]
    exact (Node.piece_print hw n h.1 fun x hx => hf x (List.mem_append_left _ hx)).append
      (Node.piece_printAll hw ns h.2 fun x hx => hf x (List.mem_append_right _ hx))

end

end Dashboard.Markup
