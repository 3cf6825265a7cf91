import Dashboard.Proofs.DocumentMarkup
import Dashboard.Wiring.Script
/-!
# What scripts register

The lines of a script read back as the id of its tab and, for each kind of event with bindings, a
table in which every action has what was bound last.

* `find?_table_eq`, `table_ne_nil_iff` — the table of a trigger, `Post.isToldBy_toJson` — its values.
* `literal?_append`, `table?_callLine` — JSON text in a line of a script.
* `ofLines?_scriptLines`, `read?_script` — what the script of a tab registers.
* `script_registers_last_posts` — scripts are markup of their own and register the last posts.
-/

namespace Dashboard.Wiring

/-! ### Tables -/

/-- The table of a trigger has what was bound last for an action. -/
theorem find?_table_eq (trigger : Trigger) (bindings : List Binding) (action : String) :
    (table trigger bindings).find? action =
      (lastPost? bindings trigger action).map Post.toJson := by
  rw [table, Json.Members.find?_sorted, Json.Members.find?, lastPost?, ← List.map_reverse,
    ← List.filter_reverse, List.find?_map, List.find?_filter, Option.map_map, Option.map_map]
  simp [Function.comp_def]

/-- An action with a binding has a last one. -/
theorem exists_lastPost? {b : Binding} {bindings : List Binding} (hb : b ∈ bindings) :
    ∃ p, lastPost? bindings b.trigger b.action = some p := by
  rw [lastPost?, ← Option.isSome_iff_exists, Option.isSome_map, List.find?_isSome]
  exact ⟨b, List.mem_reverse.mpr hb, by simp⟩

/-- A trigger has a table if something is bound for it. -/
theorem table_ne_nil_iff {trigger : Trigger} {bindings : List Binding} :
    table trigger bindings ≠ [] ↔ ∃ b ∈ bindings, b.trigger = trigger := by
  constructor
  · intro hne
    obtain ⟨m, hm⟩ := List.exists_mem_of_ne_nil _ hne
    obtain ⟨b, hb, -⟩ := List.mem_map.mp (Json.Members.mem_of_mem_sorted hm)
    obtain ⟨hmem, htrigger⟩ := List.mem_filter.mp hb
    exact ⟨b, hmem, of_decide_eq_true htrigger⟩
  · rintro ⟨b, hb, rfl⟩
    obtain ⟨p, hp⟩ := exists_lastPost? hb
    have hfind := find?_table_eq b.trigger bindings b.action
    rw [hp] at hfind
    exact List.ne_nil_of_mem (Json.Members.mem_of_find? hfind)

/-- The object of a message has a member for each part that is set. -/
theorem Post.isToldBy_toJson (p : Post) : p.IsToldBy p.toJson := by
  obtain ⟨command, attributes, value, checked⟩ := p
  constructor
  case isObject =>
    refine ⟨_, rfl, ?_⟩
    cases attributes <;> cases value <;> cases checked <;> simp [Post.optional]
  all_goals
    cases attributes <;> cases value <;> cases checked <;>
      simp [Post.toJson, Post.optional, Json.member?]

/-! ### Calls of the registry -/

/-- What stands between a beginning and an end is found. -/
theorem between?_append {α : Type} [BEq α] [LawfulBEq α] (before xs after : List α) :
    between? before after (before ++ (xs ++ after)) = some xs := by
  have hstart : before.isPrefixOf? (before ++ (xs ++ after)) = some (xs ++ after) :=
    List.isPrefixOf?_eq_some_iff_append_eq.mpr rfl
  have hend : after.isSuffixOf? (xs ++ after) = some xs :=
    List.isSuffixOf?_eq_some_iff_append_eq.mpr rfl
  rw [between?, hstart]
  exact hend

/-- A value is read off a line that it stands in. -/
theorem literal?_append (before after : String) {x : Json} (hx : x.Fits Json.Grammar.depthLimit) :
    literal? before after (before.toList ++ (x.embedded.toList ++ after.toList)) = some x := by
  rw [literal?, between?_append]
  show Json.readRaw? (String.ofList x.embedded.toList) = some x
  rw [String.ofList_toList, Json.readRaw?_embedded hx]

/-- The line that registers the bindings of a trigger. -/
def callLine (trigger : Trigger) (bindings : List Binding) : String :=
  "  registry." ++ trigger.registrar ++ "(tabId, function (action, el, event) \x7b "
    ++ trigger.guard ++ "run(" ++ (Json.object (table trigger bindings)).embedded
    ++ ", action, el); \x7d);"

/-- The triggers that something is bound for. -/
def boundTriggers (bindings : List Binding) : List Trigger :=
  Trigger.all.filter fun t => !(table t bindings).isEmpty

/-- A trigger is bound if one of the bindings has it. -/
theorem mem_boundTriggers {trigger : Trigger} {bindings : List Binding} :
    trigger ∈ boundTriggers bindings ↔ ∃ b ∈ bindings, b.trigger = trigger := by
  have hall : trigger ∈ Trigger.all := by cases trigger <;> decide
  rw [← table_ne_nil_iff]
  simp [boundTriggers, hall]

/-- Each trigger is listed once. -/
theorem nodup_boundTriggers (bindings : List Binding) : (boundTriggers bindings).Nodup := by
  have hall : Trigger.all.Nodup := by decide
  exact hall.filter _

/-- A trigger has a line if its table is not empty. -/
theorem registration_eq (trigger : Trigger) (bindings : List Binding) :
    registration trigger bindings =
      if (table trigger bindings).isEmpty then [] else [callLine trigger bindings] := by
  unfold registration callLine
  cases table trigger bindings <;> rfl

/-- The lines of all triggers are those of the triggers that are bound. -/
theorem registrations_eq (bindings : List Binding) :
    Trigger.all.flatMap (registration · bindings) =
      (boundTriggers bindings).map (callLine · bindings) := by
  unfold boundTriggers
  induction Trigger.all with
  | nil => rfl
  | cons t ts ih =>
    rw [List.flatMap_cons, ih, registration_eq]
    cases h : (table t bindings).isEmpty <;> simp [h]

namespace Registrations

theorem find?_registrar (t : Trigger) :
    Trigger.all.find? (·.registrar = t.registrar) = some t := by
  cases t <;> simp [Trigger.all, Trigger.registrar]

/-- The name of the function ends at the parenthesis. -/
theorem span_registrar (t : Trigger) (cs : List Char) :
    (t.registrar.toList ++ '(' :: cs).takeWhile (· != '(') = t.registrar.toList ∧
      (t.registrar.toList ++ '(' :: cs).dropWhile (· != '(') = '(' :: cs := by
  have hparen : '(' ∉ t.registrar.toList := by cases t <;> exact not_mem_ofList rfl
  have hname : ∀ c ∈ t.registrar.toList, (c != '(') = true :=
    fun c hc => bne_iff_ne.mpr fun heq => hparen (heq ▸ hc)
  rw [List.takeWhile_append_of_pos hname, List.dropWhile_append_of_pos hname,
    List.takeWhile_cons_of_neg (by decide), List.dropWhile_cons_of_neg (by decide)]
  exact ⟨List.append_nil _, rfl⟩

/-- A table begins after an opening bracket. -/
theorem tableStart_head (t : Trigger) : ∃ cs, (tableStart t).toList = '(' :: cs := by
  obtain ⟨cs, hcs⟩ : ∃ cs, "(tabId, function (action, el, event) \x7b ".toList = '(' :: cs :=
    ⟨_, String.toList_ofList⟩
  unfold tableStart
  rw [String.toList_append, String.toList_append, hcs]
  exact ⟨_, rfl⟩

/-- The call that registers a trigger tells the trigger and its table. -/
theorem table?_callLine (t : Trigger) (bindings : List Binding) :
    table? (callLine t bindings).toList = some (t, .object (table t bindings)) := by
  obtain ⟨cs, hstart⟩ := tableStart_head t
  have hliteral := literal?_append (tableStart t) tableEnd (fits_table t bindings)
  have hline : "  registry.".toList ++ (t.registrar.toList ++ ((tableStart t).toList ++
      ((Json.object (table t bindings)).embedded.toList ++ tableEnd.toList))) =
        (callLine t bindings).toList := by
    unfold callLine tableStart tableEnd
    simp only [String.toList_append, List.append_assoc]
  -- The parenthesis that ends the name of the function begins what stands before the table.
  rw [hstart, List.cons_append] at hliteral hline
  obtain ⟨htake, hdrop⟩ := span_registrar t
    (cs ++ ((Json.object (table t bindings)).embedded.toList ++ tableEnd.toList))
  simp only [table?, List.isPrefixOf?_eq_some_iff_append_eq.mpr hline, htake, hdrop,
    String.ofList_toList, find?_registrar, hliteral, Option.bind_eq_bind, Option.bind_some]
  rfl

/-! ### Scripts -/

/-- The line that keeps the id of the tab. -/
def idLine (tabId : String) : String := "  var tabId = " ++ (Json.string tabId).embedded ++ ";"

/-- The line with the id of a tab reads as that id. -/
theorem tab?_idLine (tabId : String) : tab? (idLine tabId).toList = some (.string tabId) := by
  unfold tab? idLine
  rw [String.toList_append, String.toList_append, List.append_assoc]
  exact literal?_append _ _ (.string tabId)

/-- The lines of a script: a frame that is always the same, the id, and a line for each trigger that
    is bound. -/
theorem scriptLines_eq (tabId : String) (bindings : List Binding) :
    scriptLines tabId bindings =
      prologue ++
        (idLine tabId :: (runner ++ (boundTriggers bindings).map (callLine · bindings)) ++
          epilogue) := by
  rw [scriptLines, registrations_eq, List.append_assoc, List.append_assoc]
  rfl

/-- What the script of a tab registers. -/
def ofBindings (tabId : String) (bindings : List Binding) : Registrations where
  tab := .string tabId
  tables := (boundTriggers bindings).map fun t => (t, .object (table t bindings))

/-- The lines of triggers read as their tables. -/
theorem mapM_table? (ts : List Trigger) (bindings : List Binding) :
    ((ts.map (callLine · bindings)).map String.toList).mapM table? =
      some (ts.map fun t => (t, .object (table t bindings))) := by
  rw [List.map_map, List.mapM_map]
  have hline : table? ∘ String.toList ∘ (callLine · bindings) =
      fun t => pure (t, Json.object (table t bindings)) :=
    funext fun t => table?_callLine t bindings
  exact (congrArg (ts.mapM ·) hline).trans List.mapM_pure

/-- The lines of a script read as the registrations of its bindings. -/
theorem ofLines?_scriptLines (tabId : String) (bindings : List Binding) :
    ofLines? ((scriptLines tabId bindings).map String.toList) =
      some (ofBindings tabId bindings) := by
  have hcalls := mapM_table? (boundTriggers bindings) bindings
  have hrunner (calls : List (List Char)) :
      (runner.map String.toList).isPrefixOf? (runner.map String.toList ++ calls) = some calls :=
    List.isPrefixOf?_eq_some_iff_append_eq.mpr rfl
  rw [scriptLines_eq, List.map_append, List.map_append, ofLines?, between?_append]
  simp only [List.map_cons, List.map_append, Option.bind_eq_bind, Option.bind_some, tab?_idLine,
    hrunner, hcalls]
  rfl

/-- What a script registers can be read off its text. -/
theorem read?_script (tabId : String) (bindings : List Binding) :
    read? (script tabId bindings) = some (ofBindings tabId bindings) := by
  -- JSON text has no line feed, so each value stands on the line that it was put on.
  have hlines : ∀ line ∈ (scriptLines tabId bindings).map String.toList, '\n' ∉ line :=
    List.forall_mem_map.mpr (not_mem_scriptLines (.inr (.inr rfl)) tabId bindings)
  have hsplit : (script tabId bindings).toList.splitOn '\n' =
      (scriptLines tabId bindings).map String.toList := by
    rw [script_eq, String.toList_intercalate]
    exact List.splitOn_intercalate '\n' hlines (by simp [scriptLines])
  rw [read?, hsplit, ofLines?_scriptLines]

/-- Each action has what was bound last for it. -/
theorem tell_ofBindings (tabId : String) (bindings : List Binding) :
    (ofBindings tabId bindings).Tell tabId bindings := by
  -- There is one table for each trigger that is bound.
  have hkinds : (ofBindings tabId bindings).tables.map (·.1) = boundTriggers bindings := by
    simp [ofBindings, Function.comp_def]
  constructor
  case tab => rfl
  case nodup =>
    rw [hkinds]
    exact nodup_boundTriggers bindings
  case mem_iff =>
    intro t
    rw [hkinds]
    exact mem_boundTriggers
  case posts =>
    intro call hcall
    obtain ⟨t, -, rfl⟩ := List.mem_map.mp hcall
    refine ⟨table t bindings, rfl, (Json.Members.ascending_sorted _).nodup, fun action => ?_⟩
    rw [find?_table_eq]
    cases lastPost? bindings t action with
    | none => exact .none
    | some p => exact .some p.isToldBy_toJson

end Registrations

/-- The script of a tab has no `<`, `>` or `&`, so a script element holds it to its own end tag. It
registers each kind of event at most once, if something is bound for it. The values in it are the id
of the tab and, for each kind of event, the last post of every action. -/
theorem script_registers_last_posts (tabId : String) (bindings : List Binding) :
    (∀ c ∈ ['<', '>', '&'], c ∉ (script tabId bindings).toList) ∧
      Markup.tokens? ("<script>" ++ script tabId bindings ++ "</script>") =
        some [.opening "script" [], .raw (script tabId bindings), .closing "script"] ∧
      ∃ r, Registrations.read? (script tabId bindings) = some r ∧ r.Tell tabId bindings := by
  have hmarkup : ∀ c ∈ ['<', '>', '&'], c ∉ (script tabId bindings).toList := by
    simp only [List.forall_mem_cons, List.not_mem_nil, false_imp_iff, implies_true, and_true]
    exact ⟨not_mem_script (.inl (.inl rfl)) tabId bindings, not_mem_script (.inr rfl) tabId bindings,
      not_mem_script (.inl (.inr rfl)) tabId bindings⟩
  exact ⟨hmarkup, Markup.tokens?_scriptElement (hmarkup '<' List.mem_cons_self), _,
    Registrations.read?_script tabId bindings, Registrations.tell_ofBindings tabId bindings⟩

end Dashboard.Wiring
