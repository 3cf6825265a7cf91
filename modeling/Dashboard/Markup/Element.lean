import Dashboard.Markup.Basic
/-!
# The elements of a tree

* `Markup.Element` — an element apart from the tree it stands in.
* `Node.elements` — the elements of a tree, in the order of their start tags; `Node.foreigns` — what
  is foreign in it.
* `Node.Every` — a property that all elements of a tree have.
-/

namespace Dashboard.Markup

variable {ρ σ : Type}

/-- An element of a tree. -/
structure Element (ρ : Type) where
  tag : Tag
  attributes : List Attribute
  children : List (Node ρ)

/-- The name of an attribute as it is written. -/
def Attribute.label : Attribute → String
  | plain name _ => name.text
  | flag name => name.text
  | data name _ => "data-" ++ name

/-- The value of an attribute, none for a flag. -/
def Attribute.content : Attribute → Option String
  | plain _ value => some value
  | flag _ => none
  | data _ value => some value

namespace Element

/-- Changes what is foreign. -/
def map (f : ρ → σ) (e : Element ρ) : Element σ := ⟨e.tag, e.attributes, Node.mapAll f e.children⟩

/-- The value of an attribute of an element. -/
def attribute? (e : Element ρ) (label : String) : Option String :=
  (e.attributes.find? (·.label == label)).bind (·.content)

/-- What an element does, if it does anything. -/
def action? (e : Element ρ) : Option String := e.attribute? "data-action"

end Element

namespace Node

mutual

/-- The elements of a node. -/
def elements : Node ρ → List (Element ρ)
  | text _ => []
  | element tag attributes children => ⟨tag, attributes, children⟩ :: elementsAll children
  | foreign _ => []

/-- The elements of a list of nodes. -/
def elementsAll : List (Node ρ) → List (Element ρ)
  | [] => []
  | n :: rest => elements n ++ elementsAll rest

end

mutual

/-- What is foreign in a node. -/
def foreigns : Node ρ → List ρ
  | text _ => []
  | element _ _ children => foreignsAll children
  | foreign x => [x]

/-- What is foreign in a list of nodes. -/
def foreignsAll : List (Node ρ) → List ρ
  | [] => []
  | n :: rest => foreigns n ++ foreignsAll rest

end

/-- All elements of a node have a property. -/
def Every (P : Element ρ → Prop) (n : Node ρ) : Prop := ∀ e ∈ n.elements, P e

/-- All elements of some nodes have a property. -/
def EveryAll (P : Element ρ → Prop) (ns : List (Node ρ)) : Prop := ∀ e ∈ elementsAll ns, P e

variable {P Q : Element ρ → Prop}

@[simp] theorem every_text (s : String) : Every P (text s) := by
  simp [Every, elements]

@[simp] theorem every_foreign (x : ρ) : Every P (foreign x) := by
  simp [Every, elements]

@[simp] theorem every_element (tag : Tag) (attributes : List Attribute)
    (children : List (Node ρ)) :
    Every P (element tag attributes children) ↔
      P ⟨tag, attributes, children⟩ ∧ EveryAll P children := by
  simp [Every, EveryAll, elements]

@[simp] theorem everyAll_nil : EveryAll P [] := by
  simp [EveryAll, elementsAll]

@[simp] theorem everyAll_cons (n : Node ρ) (ns : List (Node ρ)) :
    EveryAll P (n :: ns) ↔ Every P n ∧ EveryAll P ns := by
  simp [EveryAll, Every, elementsAll, or_imp, forall_and]

@[simp] theorem everyAll_append (ns ms : List (Node ρ)) :
    EveryAll P (ns ++ ms) ↔ EveryAll P ns ∧ EveryAll P ms := by
  induction ns with
  | nil => simp
  | cons n ns ih => simp [ih, and_assoc]

/-- What all elements of some nodes have, those of each of them have. -/
theorem everyAll_iff {ns : List (Node ρ)} : EveryAll P ns ↔ ∀ n ∈ ns, Every P n := by
  induction ns with
  | nil => simp
  | cons n ns ih => simp [ih]

@[simp] theorem everyAll_map {α : Type} (f : α → Node ρ) (xs : List α) :
    EveryAll P (xs.map f) ↔ ∀ x ∈ xs, Every P (f x) := by
  simp [everyAll_iff]

@[simp] theorem foreigns_text (s : String) : (text s : Node ρ).foreigns = [] := by
  simp [foreigns]

@[simp] theorem foreigns_element (tag : Tag) (attributes : List Attribute)
    (children : List (Node ρ)) :
    (element tag attributes children).foreigns = foreignsAll children := by
  simp [foreigns]

@[simp] theorem foreigns_foreign (x : ρ) : (foreign x).foreigns = [x] := by
  simp [foreigns]

@[simp] theorem foreignsAll_nil : foreignsAll ([] : List (Node ρ)) = [] := by
  simp [foreignsAll]

@[simp] theorem foreignsAll_cons (n : Node ρ) (ns : List (Node ρ)) :
    foreignsAll (n :: ns) = n.foreigns ++ foreignsAll ns := by
  simp [foreignsAll]

/-- What stands in some nodes stands in one of them, in their order. -/
theorem foreignsAll_eq_flatMap (ns : List (Node ρ)) : foreignsAll ns = ns.flatMap foreigns := by
  induction ns with
  | nil => simp
  | cons n ns ih => simp [ih]

theorem foreignsAll_map {α : Type} (f : α → Node ρ) (xs : List α) :
    foreignsAll (xs.map f) = xs.flatMap fun x => (f x).foreigns := by
  rw [foreignsAll_eq_flatMap, List.flatMap_map]

@[simp] theorem foreignsAll_append (ns ms : List (Node ρ)) :
    foreignsAll (ns ++ ms) = foreignsAll ns ++ foreignsAll ms := by
  simp [foreignsAll_eq_flatMap]

mutual

/-- The elements stay as they are if what stands beneath them is replaced. -/
theorem elements_map (f : ρ → σ) (n : Node ρ) :
    (n.map f).elements = n.elements.map (Element.map f) :=
  match n with
  | text s => by simp [map, elements]
  | element tag attributes children => by
    simp [map, elements, Element.map, elementsAll_mapAll f children]
  | foreign x => by simp [map, elements]

theorem elementsAll_mapAll (f : ρ → σ) (ns : List (Node ρ)) :
    elementsAll (mapAll f ns) = (elementsAll ns).map (Element.map f) :=
  match ns with
  | [] => by simp [mapAll, elementsAll]
  | n :: ns => by simp [mapAll, elementsAll, elements_map f n, elementsAll_mapAll f ns]

end

mutual

/-- What stands beneath the elements is replaced where it stands. -/
theorem foreigns_map (f : ρ → σ) (n : Node ρ) : (n.map f).foreigns = n.foreigns.map f :=
  match n with
  | text s => by simp [map]
  | element tag attributes children => by simp [map, foreignsAll_mapAll f children]
  | foreign x => by simp [map]

theorem foreignsAll_mapAll (f : ρ → σ) (ns : List (Node ρ)) :
    foreignsAll (mapAll f ns) = (foreignsAll ns).map f :=
  match ns with
  | [] => by simp [mapAll]
  | n :: ns => by simp [mapAll, foreigns_map f n, foreignsAll_mapAll f ns]

end

/-- A node beneath which nothing can stand has nothing there. -/
@[simp] theorem foreigns_empty (n : Node Empty) : n.foreigns = [] :=
  List.eq_nil_iff_forall_not_mem.mpr fun x => x.elim

@[simp] theorem foreigns_lift (n : Node Empty) : (n.lift : Node ρ).foreigns = [] := by
  simp [lift, foreigns_map]

@[simp] theorem every_lift (n : Node Empty) :
    Every P n.lift ↔ Every (fun e => P (e.map Empty.elim)) n := by
  simp [Every, lift, elements_map]

/-- What follows from the property for each element follows for all. -/
theorem Every.imp {n : Node ρ} (hn : Every P n) (h : ∀ e, P e → Q e) : Every Q n :=
  fun e he => h e (hn e he)

end Node

end Dashboard.Markup
