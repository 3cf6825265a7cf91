import Dashboard.Text.LowerCase
import Mathlib.Data.List.Basic
/-!
# Lower case within a text

The lower case of a capital sigma depends on its neighbours: it takes its final form behind a
character with case, unless one follows. Every other character has the same lower case anywhere.

* `sigma` — the form of a sigma.
* `lowerWithin` — the lower case of characters within a text.
* `KeepsForms` — characters with the same lower case within a text as alone.
* `IsSettled` — characters that no neighbours change.
-/

namespace Dashboard.Text

/-- The lower case of a sigma between characters, of which those before it stand with the last one
    first. -/
def sigma (before rest : List Char) : Char :=
  if meetsCased before && !meetsCased rest then 'ς' else 'σ'

/-- The lower case of characters within a text, between `before`, with the last one first, and
    `after`. -/
def lowerWithin (before after : List Char) : List Char → List Char
  | [] => []
  | c :: cs =>
    let here :=
      if c = 'Σ' then [sigma before (cs ++ after)]
      else if c = 'İ' then ['i', '\u0307']
      else [lowerChar c]
    here ++ lowerWithin (c :: before) after cs

/-- Between other characters each sigma has the form that it has without them. -/
def KeepsForms (before after cs : List Char) : Prop :=
  ∀ u v, cs = u ++ 'Σ' :: v → sigma (u.reverse ++ before) (v ++ after) = sigma u.reverse v

/-- No sigma has its form from what may stand before or behind the characters: one that could be the
    first of a word has a character with case behind it, and one that could be the last has none
    before it. -/
def IsSettled (cs : List Char) : Prop :=
  ∀ u v, cs = u ++ 'Σ' :: v →
    ((∀ c ∈ u, isPassedOver c = true) → meetsCased v = true) ∧
    ((∀ c ∈ v, isPassedOver c = true) → meetsCased u.reverse = false)

/-- The sigmas one by one, each told by its place. -/
theorem isSettled_iff_forall_lt {cs : List Char} :
    IsSettled cs ↔ ∀ i < cs.length, cs[i]? = some 'Σ' →
      ((cs.take i).all isPassedOver = true → meetsCased (cs.drop (i + 1)) = true) ∧
      ((cs.drop (i + 1)).all isPassedOver = true → meetsCased (cs.take i).reverse = false) := by
  simp only [List.all_eq_true]
  constructor
  · intro h i hi hsigma
    refine h _ _ ?_
    obtain ⟨_, hget⟩ := List.getElem?_eq_some_iff.mp hsigma
    rw [← hget, ← List.drop_eq_getElem_cons, List.take_append_drop]
  · rintro h u v rfl
    simpa using h u.length (by simp) (by simp)

instance : DecidablePred IsSettled := fun _ => decidable_of_iff' _ isSettled_iff_forall_lt

end Dashboard.Text
