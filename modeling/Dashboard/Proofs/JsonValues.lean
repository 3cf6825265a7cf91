import Dashboard.Proofs.JsonMembers
import Dashboard.Proofs.NumberReading
import Mathlib.Data.List.DropRight
/-!
# Values that are read

What is read can be written and read again if its doubles can, and the normal form of a value is
final.

* `Grammar.number?_canonical` — the numbers that are read are those of 64 bits and the doubles.
* `Grammar.Form` — what one more step of the reader finds, by one rule for each kind of value, with
  `value?_eq_some`, `items?_eq_some`, `members?_eq_some`, `member?_eq_some`.
* `Grammar.finds` — the values that are read, by induction on the steps of the reader, and
  `nested_of_readRaw?` — those of a whole text.
* `Members.sorted_of_ascending`, `normal_normal` — what is in normal form stays as it is.
* `Nested.normal` — the normal form of a value that was read could have been read as well.
* `Nested.fits` — a value that was read reads back if each of its doubles does.
-/

namespace Dashboard.Json

namespace Grammar

variable {steps depth : Nat} {cs rest : List Char} {negative : Bool}

/-! ### Numbers -/

/-- An integer literal is read as an integer of 64 bits or as a double. -/
theorem integer?_canonical {n : Nat} {k : Number} (hn : n ≤ Count.max)
    (h : integer? negative n = some k) : k.IsCanonical := by
  have hbound : Count.signedBound = 9223372036854775808 := rfl
  have hmax : Count.max = 18446744073709551615 := rfl
  unfold integer? at h
  split at h
  · split at h
    · -- Negative integers beyond 64 bits and the negative zero are read as doubles.
      obtain ⟨m, hm, rfl⟩ := Option.map_eq_some_iff.mp h
      exact Magnitude.ofRatio?_canonical hm
    · cases h
      show -Count.signedBound ≤ -(n : Int) ∧ -(n : Int) ≤ Count.max
      omega
  · cases h
    show -Count.signedBound ≤ (n : Int) ∧ (n : Int) ≤ Count.max
    omega

/-- What is reckoned from digits is a double. -/
theorem double?_canonical {digits : Nat} {exponent : Int} {k : Number}
    (h : double? negative digits exponent = some k) : k.IsCanonical := by
  obtain ⟨m, hm, rfl⟩ := Option.map_eq_some_iff.mp h
  obtain ⟨x, hx, hm⟩ := Option.bind_eq_some_iff.mp hm
  exact Magnitude.shift?_canonical (Magnitude.ofRatio?_canonical hx) hm

/-- The numbers that are read. -/
theorem number?_canonical {k : Number} (h : number? negative cs = some (k, rest)) :
    k.IsCanonical := by
  obtain ⟨n, hmax, hn⟩ | ⟨_, _, hdouble⟩ := number?_cases h
  · exact integer?_canonical hmax hn
  · exact double?_canonical hdouble

/-! ### The rules of the reader -/

/-- A value as it stands behind white space, one rule for each kind. What stands inside an array or
an object is what the reader finds in so many steps. -/
inductive Form (steps : Nat) : Nat → List Char → Json → List Char → Prop where
  | null {depth : Nat} {rest : List Char} :
      Form steps depth ('n' :: 'u' :: 'l' :: 'l' :: rest) .null rest
  | yes {depth : Nat} {rest : List Char} :
      Form steps depth ('t' :: 'r' :: 'u' :: 'e' :: rest) (.bool true) rest
  | no {depth : Nat} {rest : List Char} :
      Form steps depth ('f' :: 'a' :: 'l' :: 's' :: 'e' :: rest) (.bool false) rest
  | string {depth : Nat} {cs rest : List Char} {s : String} (h : string? cs = some (s, rest)) :
      Form steps depth ('"' :: cs) (.string s) rest
  | negative {depth : Nat} {cs rest : List Char} {n : Number}
      (h : number? true cs = some (n, rest)) : Form steps depth ('-' :: cs) (.number n) rest
  | number {depth : Nat} {cs rest : List Char} {n : Number}
      (h : number? false cs = some (n, rest)) : Form steps depth cs (.number n) rest
  | arrayNil {depth : Nat} {cs rest : List Char} (hclose : skipSpace cs = ']' :: rest) :
      Form steps (depth + 1) ('[' :: cs) (.array []) rest
  | array {depth : Nat} {cs rest : List Char} {xs : List Json}
      (hopen : ∀ ds, skipSpace cs ≠ ']' :: ds)
      (h : items? steps depth (skipSpace cs) = some (xs, rest)) :
      Form steps (depth + 1) ('[' :: cs) (.array xs) rest
  | objectNil {depth : Nat} {cs rest : List Char} (hclose : skipSpace cs = '\x7d' :: rest) :
      Form steps (depth + 1) ('\x7b' :: cs) (.object []) rest
  | object {depth : Nat} {cs rest : List Char} {ms : Members}
      (hopen : ∀ ds, skipSpace cs ≠ '\x7d' :: ds)
      (h : members? steps depth (skipSpace cs) = some (ms, rest)) :
      Form steps (depth + 1) ('\x7b' :: cs) (.object ms) rest

/-- What the reader finds has one of the forms of a value. -/
theorem form_of_value? {x : Json} (h : value? (steps + 1) depth cs = some (x, rest)) :
    Form steps depth (skipSpace cs) x rest := by
  rw [value?] at h
  -- One case for each character with which a value may begin.
  split at h <;> rename_i heq
  · cases h
    exact heq ▸ .null
  · cases h
    exact heq ▸ .yes
  · cases h
    exact heq ▸ .no
  · obtain ⟨⟨s, _⟩, hs, hx⟩ := Option.map_eq_some_iff.mp h
    cases hx
    exact heq ▸ .string hs
  · obtain ⟨⟨n, _⟩, hn, hx⟩ := Option.map_eq_some_iff.mp h
    cases hx
    exact heq ▸ .negative hn
  · -- A list, which is nested one level deeper.
    rw [heq]
    split at h
    · cases h
    · split at h
      · rename_i hclose
        cases h
        exact .arrayNil hclose
      · rename_i hopen
        obtain ⟨⟨xs, _⟩, hxs, hx⟩ := Option.map_eq_some_iff.mp h
        cases hx
        exact .array hopen hxs
  · rw [heq]
    split at h
    · cases h
    · split at h
      · rename_i hclose
        cases h
        exact .objectNil hclose
      · rename_i hopen
        obtain ⟨⟨ms, _⟩, hms, hx⟩ := Option.map_eq_some_iff.mp h
        cases hx
        exact .object hopen hms
  · obtain ⟨⟨n, _⟩, hn, hx⟩ := Option.map_eq_some_iff.mp h
    cases hx
    exact .number hn

/-- White space in front of a value is passed over. -/
theorem value?_skipSpace (steps depth : Nat) (cs : List Char) :
    value? (steps + 1) depth (skipSpace cs) = value? (steps + 1) depth cs := by
  have hskip : skipSpace (skipSpace cs) = skipSpace cs := List.dropWhile_idempotent _ cs
  rw [value?, value?, hskip]

/-- A number begins with a digit. -/
theorem exists_digit_of_number? {n : Number} (h : number? negative cs = some (n, rest)) :
    ∃ c ds, cs = c :: ds ∧ c.isDigit = true := by
  simp only [number?, Option.bind_eq_bind, Option.bind_eq_some_iff] at h
  obtain ⟨⟨ds, after⟩, hwhole, -⟩ := h
  cases cs with
  | nil => cases hwhole
  | cons c cs =>
    refine ⟨c, cs, rfl, ?_⟩
    by_contra hc
    rw [whole?, List.takeWhile_cons_of_neg hc] at hwhole
    cases hwhole

/-- The reader finds the value that stands there. -/
theorem Form.value? {x : Json} (h : Form steps depth cs x rest) :
    value? (steps + 1) depth cs = some (x, rest) := by
  have hbracket (ds : List Char) : skipSpace ('[' :: ds) = '[' :: ds :=
    skipSpace_of_not (by decide) ds
  have hbrace (ds : List Char) : skipSpace ('\x7b' :: ds) = '\x7b' :: ds :=
    skipSpace_of_not (by decide) ds
  cases h with
  | null => exact value?_null steps depth rest
  | yes => exact value?_true steps depth rest
  | no => exact value?_false steps depth rest
  | string h =>
    rw [value?_string, h]
    rfl
  | negative h =>
    rw [Number.value?_minus, h]
    rfl
  | number h =>
    obtain ⟨c, ds, rfl, hc⟩ := exists_digit_of_number? h
    rw [Number.value?_digit steps depth hc, h]
    rfl
  | arrayNil hclose => simp only [Grammar.value?, hbracket, hclose]
  -- `hopen` keeps the rule for an array without items from applying.
  | array hopen h => simp only [Grammar.value?, hbracket, h, Option.map_some]
  | objectNil hclose => simp only [Grammar.value?, hbrace, hclose]
  | object hopen h => simp only [Grammar.value?, hbrace, h, Option.map_some]

/-- The reader finds a value exactly if it has one of the forms. -/
theorem value?_eq_some {x : Json} :
    value? (steps + 1) depth cs = some (x, rest) ↔ Form steps depth (skipSpace cs) x rest := by
  refine ⟨form_of_value?, fun h => ?_⟩
  rw [← value?_skipSpace]
  exact h.value?

/-- Behind an item stands a comma and more items, or the closing bracket. -/
theorem items?_eq_some {xs : List Json} :
    items? (steps + 1) depth cs = some (xs, rest) ↔
      ∃ x after, value? steps depth cs = some (x, after) ∧
        ((∃ next ys, skipSpace after = ',' :: next ∧
            items? steps depth next = some (ys, rest) ∧ xs = x :: ys) ∨
          (skipSpace after = ']' :: rest ∧ xs = [x])) := by
  constructor
  · intro h
    rw [items?] at h
    split at h
    · cases h
    · rename_i x after hx
      refine ⟨x, after, hx, ?_⟩
      split at h <;> rename_i heq
      · obtain ⟨⟨ys, _⟩, hys, hxs⟩ := Option.map_eq_some_iff.mp h
        cases hxs
        exact .inl ⟨_, ys, heq, hys, rfl⟩
      · cases h
        exact .inr ⟨heq, rfl⟩
      · cases h
  · rintro ⟨x, after, hx, ⟨next, ys, hcomma, hys, rfl⟩ | ⟨hclose, rfl⟩⟩
    · simp only [items?, hx, hcomma, hys, Option.map_some]
    · simp only [items?, hx, hclose]

/-- Behind a member stands a comma and more members, or the closing brace. -/
theorem members?_eq_some {ms : Members} :
    members? (steps + 1) depth cs = some (ms, rest) ↔
      ∃ m after, member? steps depth cs = some (m, after) ∧
        ((∃ next ns, skipSpace after = ',' :: next ∧
            members? steps depth next = some (ns, rest) ∧ ms = m :: ns) ∨
          (skipSpace after = '\x7d' :: rest ∧ ms = [m])) := by
  constructor
  · intro h
    rw [members?] at h
    split at h
    · cases h
    · rename_i m after hm
      refine ⟨m, after, hm, ?_⟩
      split at h <;> rename_i heq
      · obtain ⟨⟨ns, _⟩, hns, hms⟩ := Option.map_eq_some_iff.mp h
        cases hms
        exact .inl ⟨_, ns, heq, hns, rfl⟩
      · cases h
        exact .inr ⟨heq, rfl⟩
      · cases h
  · rintro ⟨m, after, hm, ⟨next, ns, hcomma, hns, rfl⟩ | ⟨hclose, rfl⟩⟩
    · simp only [members?, hm, hcomma, hns, Option.map_some]
    · simp only [members?, hm, hclose]

/-- A member is a string, a colon and a value. -/
theorem member?_eq_some {m : String × Json} :
    member? (steps + 1) depth cs = some (m, rest) ↔
      ∃ name inner after next x, skipSpace cs = '"' :: inner ∧
        string? inner = some (name, after) ∧ skipSpace after = ':' :: next ∧
        value? steps depth next = some (x, rest) ∧ m = (name, x) := by
  constructor
  · -- The reader goes on only from a quote, a name and a colon.
    intro h
    rw [member?] at h
    split at h
    · rename_i inner hquote
      split at h
      · cases h
      · rename_i name after hname
        split at h
        · rename_i next hcolon
          obtain ⟨⟨x, _⟩, hx, hm⟩ := Option.map_eq_some_iff.mp h
          cases hm
          exact ⟨name, inner, after, next, x, hquote, hname, hcolon, hx, rfl⟩
        · cases h
    · cases h
  · rintro ⟨name, inner, after, next, x, hquote, hname, hcolon, hx, rfl⟩
    simp only [member?, hquote, hname, hcolon, hx, Option.map_some]

/-! ### Values -/

/-- What the reader finds in so many steps is not nested too deep, and its numbers are those of 64
bits and the doubles. -/
structure Finds (steps : Nat) : Prop where
  value : ∀ {depth cs x rest}, value? steps depth cs = some (x, rest) → x.Nested Number.IsCanonical depth
  items : ∀ {depth cs xs rest}, items? steps depth cs = some (xs, rest) → ∀ x ∈ xs, x.Nested Number.IsCanonical depth
  members : ∀ {depth cs ms rest}, members? steps depth cs = some (ms, rest) →
    ∀ m ∈ ms, m.2.Nested Number.IsCanonical depth
  member : ∀ {depth cs m rest}, member? steps depth cs = some (m, rest) → m.2.Nested Number.IsCanonical depth

/-- A value of any form has numbers that are read and is not nested too deep. -/
theorem Finds.form (hf : Finds steps) {x : Json} (h : Form steps depth cs x rest) :
    x.Nested Number.IsCanonical depth := by
  cases h with
  | null => exact .null
  | yes => exact .bool true
  | no => exact .bool false
  | string _ => exact .string _
  | negative h => exact .number (number?_canonical h)
  | number h => exact .number (number?_canonical h)
  | arrayNil _ => exact .array (List.forall_mem_nil _)
  | array _ h => exact .array (hf.items h)
  | objectNil _ => exact .object (List.forall_mem_nil _)
  | object _ h => exact .object (hf.members h)

/-- What holds of so many steps holds of one more. -/
theorem Finds.succ (hf : Finds steps) : Finds (steps + 1) where
  value h := hf.form (value?_eq_some.mp h)
  items h := by
    obtain ⟨x, after, hx, ⟨_, ys, _, hys, rfl⟩ | ⟨_, rfl⟩⟩ := items?_eq_some.mp h
    · exact List.forall_mem_cons.mpr ⟨hf.value hx, hf.items hys⟩
    · exact List.forall_mem_singleton.mpr (hf.value hx)
  members h := by
    obtain ⟨m, after, hm, ⟨_, ns, _, hns, rfl⟩ | ⟨_, rfl⟩⟩ := members?_eq_some.mp h
    · exact List.forall_mem_cons.mpr ⟨hf.member hm, hf.members hns⟩
    · exact List.forall_mem_singleton.mpr (hf.member hm)
  member h := by
    obtain ⟨_, _, _, _, x, _, _, _, hx, rfl⟩ := member?_eq_some.mp h
    exact hf.value hx

/-- The same in any number of steps. -/
theorem finds (steps : Nat) : Finds steps := by
  induction steps with
  | zero =>
    -- Nothing is found in no steps.
    constructor
    · intro _ _ _ _ h
      rw [value?] at h
      cases h
    · intro _ _ _ _ h
      rw [items?] at h
      cases h
    · intro _ _ _ _ h
      rw [members?] at h
      cases h
    · intro _ _ _ _ h
      rw [member?] at h
      cases h
  | succ steps ih => exact ih.succ

end Grammar

open Grammar

/-- The values that are read. -/
theorem nested_of_readRaw? {text : String} {x : Json} (h : readRaw? text = some x) :
    x.Nested Number.IsCanonical depthLimit := by
  unfold readRaw? at h
  split at h
  · rename_i y rest hy
    split at h
    · cases h
      exact (finds _).value hy
    · cases h
  · cases h

/-! ### Normal forms -/

namespace Members

variable {ms acc : Members}

/-- No member is made up. -/
theorem mem_of_mem_sorted {m : String × Json} (hm : m ∈ ms.sorted) : m ∈ ms := by
  have hfind := find?_of_mem (ascending_sorted ms).nodup hm
  rw [find?_sorted] at hfind
  exact List.mem_reverse.mp (mem_of_find? hfind)

/-- A name behind all others is put last. -/
theorem put_of_last {name : String} (value : Json) (hn : ∀ n ∈ acc.map (·.1), n < name) :
    acc.put name value = acc ++ [(name, value)] := by
  induction acc with
  | nil => rfl
  | cons m acc ih =>
    obtain ⟨n, v⟩ := m
    obtain ⟨hlt, hrest⟩ := List.forall_mem_cons.mp hn
    have hne : name ≠ n := (Std.ne_of_lt hlt).symm
    have hnot : ¬ name < n := String.lt_asymm hlt
    rw [put, if_neg hne, if_neg hnot, ih hrest]
    rfl

/-- Members in the order of their names are put as they are. -/
theorem foldl_put_of_ascending (ha : Ascending (acc ++ ms)) :
    ms.foldl (fun acc m => put m.1 m.2 acc) acc = acc ++ ms := by
  induction ms generalizing acc with
  | nil => exact (List.append_nil acc).symm
  | cons m ms ih =>
    have hlast : ∀ n ∈ acc.map (·.1), n < m.1 := by
      intro n hn
      rw [Ascending, List.map_append] at ha
      exact (List.pairwise_append.mp ha).2.2 n hn m.1 List.mem_cons_self
    rw [List.foldl_cons, put_of_last m.2 hlast, ih (by rwa [List.append_assoc]), List.append_assoc]
    rfl

/-- Sorted members stay as they are. -/
theorem sorted_of_ascending (ha : ms.Ascending) : ms.sorted = ms :=
  foldl_put_of_ascending (List.nil_append ms ▸ ha)

end Members

/-- The items of a list are put in order one by one. -/
theorem normalItems_eq_map (items : List Json) : normalItems items = items.map normal := by
  induction items with
  | nil => rfl
  | cons x items ih => rw [normalItems, ih, List.map_cons]

/-- Values in normal form stay as they are. -/
theorem normalMembers_of_normal {ms : Members} (h : ∀ m ∈ ms, m.2.normal = m.2) :
    normalMembers ms = ms := by
  rw [normalMembers_eq_map]
  refine (List.map_congr_left fun m hm => ?_).trans (List.map_id ms)
  rw [h m hm]
  rfl

/-- Members that are sorted and in normal form stay as they are. -/
theorem normal_object {ms : Members} (ha : ms.Ascending) (h : ∀ m ∈ ms, m.2.normal = m.2) :
    (object ms).normal = object ms := by
  rw [normal, normalMembers_of_normal h, Members.sorted_of_ascending ha]

mutual

/-- The normal form of a value is in normal form. -/
theorem normal_normal : ∀ x : Json, x.normal.normal = x.normal
  | .null => rfl
  | .bool _ => rfl
  | .number _ => rfl
  | .string _ => rfl
  | .array items => by
    rw [normal, normal, normalItems_eq_map (normalItems items)]
    exact congrArg array
      ((List.map_congr_left (normal_of_mem_items items)).trans (List.map_id _))
  | .object ms => by
    rw [normal]
    exact normal_object (Members.ascending_sorted _) fun m hm =>
      normal_of_mem_members ms m (Members.mem_of_mem_sorted hm)

/-- The items of a list that is in order are in order. -/
theorem normal_of_mem_items : ∀ items : List Json, ∀ x ∈ normalItems items, x.normal = x
  | [], _, hx => nomatch hx
  | y :: items, x, hx => by
    rcases List.mem_cons.mp hx with rfl | hx
    · exact normal_normal y
    · exact normal_of_mem_items items x hx

/-- The values of members that are in order are in order. -/
theorem normal_of_mem_members : ∀ ms : Members, ∀ m ∈ normalMembers ms, m.2.normal = m.2
  | [], _, hm => nomatch hm
  | (_, y) :: ms, m, hm => by
    rcases List.mem_cons.mp hm with rfl | hm
    · exact normal_normal y
    · exact normal_of_mem_members ms m hm

end

/-! ### Numbers of one kind -/

section

variable {kind : Number → Prop} {depth : Nat}

/-- The values of the members of an object. -/
theorem Nested.members {ms : Members} (h : (Json.object ms).Nested kind depth) :
    ∀ m ∈ ms, m.2.Nested kind (depth - 1) := by
  cases h with
  | object hx => exact hx

/-- The normal form of a value is nested no deeper and has no other numbers. -/
theorem Nested.normal {x : Json} (hx : x.Nested kind depth) : x.normal.Nested kind depth := by
  induction hx with
  | null => exact .null
  | bool b => exact .bool b
  | number hn => exact .number hn
  | string s => exact .string s
  | array _ ih =>
    rw [Json.normal, normalItems_eq_map]
    refine .array fun y hy => ?_
    obtain ⟨x, hx, rfl⟩ := List.mem_map.mp hy
    exact ih x hx
  | object _ ih =>
    rw [Json.normal, normalMembers_eq_map]
    refine .object fun m hm => ?_
    obtain ⟨k, hk, rfl⟩ := List.mem_map.mp (Members.mem_of_mem_sorted hm)
    exact ih k hk

end

/-- The doubles of an item are among those of the items. -/
theorem mem_doublesOfItems {items : List Json} {x : Json} (hx : x ∈ items) {d : Binary64}
    (hd : d ∈ x.doubles) : d ∈ doublesOfItems items := by
  induction items with
  | nil => cases hx
  | cons y items ih =>
    rw [doublesOfItems, List.mem_append]
    rcases List.mem_cons.mp hx with rfl | hx
    · exact .inl hd
    · exact .inr (ih hx)

/-- The doubles of a member are among those of the members. -/
theorem mem_doublesOfMembers {ms : Members} {m : String × Json} (hm : m ∈ ms) {d : Binary64}
    (hd : d ∈ m.2.doubles) : d ∈ doublesOfMembers ms := by
  induction ms with
  | nil => cases hm
  | cons k ms ih =>
    rw [doublesOfMembers, List.mem_append]
    rcases List.mem_cons.mp hm with rfl | hm
    · exact .inl hd
    · exact .inr (ih hm)

/-- A value that was read reads back if its doubles do: its integers and strings always do. -/
theorem Nested.fits {depth : Nat} {x : Json} (hx : x.Nested Number.IsCanonical depth)
    (hd : ∀ d ∈ x.doubles, (Json.number (.float d)).Rereads) : x.Fits depth := by
  induction hx with
  | null => exact .null
  | bool b => exact .bool b
  | @number _ n hn =>
    cases n with
    | int z => exact .number (Number.reads_int hn.1 hn.2)
    | float d => exact .number (Binary64.reads_of_rereads hn (hd d List.mem_cons_self))
  | string s => exact .string s
  | array _ ih => exact .array fun x hx => ih x hx fun d h => hd d (mem_doublesOfItems hx h)
  | object _ ih => exact .object fun m hm => ih m hm fun d h => hd d (mem_doublesOfMembers hm h)

end Dashboard.Json
