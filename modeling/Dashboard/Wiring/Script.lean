import Dashboard.Json.Parser
import Dashboard.Wiring.Binding
/-!
# Scripts read from their text

The script of a tab is one statement a line. It keeps the id of the tab in a variable and then calls
the registry once for each kind of event that has bindings. The id and the bindings stand in it as
JSON text, so they can be read off the text of the script.

* `Wiring.Registrations` — what a script registers, `Registrations.read?` — read off its text.
* `Wiring.lastPost?` — what the bindings say of an action.
* `Post.IsToldBy`, `Registrations.Tell` — what is registered says what the bindings say.
-/

namespace Dashboard.Wiring

/-- What stands in a list between a beginning and an end. -/
def between? {α : Type} [BEq α] (before after xs : List α) : Option (List α) := do
  after.isSuffixOf? (← before.isPrefixOf? xs)

/-- The value whose JSON text stands between two texts. -/
def literal? (before after : String) (cs : List Char) : Option Json := do
  Json.readRaw? (String.ofList (← between? before.toList after.toList cs))

/-- What a script registers: the id of the tab and, for each call of the registry, the kind of
    event and the bindings. -/
structure Registrations where
  tab : Json
  tables : List (Trigger × Json)

namespace Registrations

/-- The lines before the id of the tab. -/
def prologue : List String :=
  [ "(function () \x7b"
  , "  var registry = window.devboardRegistry;"
  , "  if (!registry) \x7b return; \x7d" ]

/-- The lines after all calls of the registry. -/
def epilogue : List String := [ "\x7d)();" ]

/-- The id of the tab, from the line that keeps it. -/
def tab? (line : List Char) : Option Json := literal? "  var tabId = " ";" line

/-- What stands before the bindings in a call of the registry, after the name of the function. -/
def tableStart (trigger : Trigger) : String :=
  "(tabId, function (action, el, event) \x7b " ++ trigger.guard ++ "run("

/-- What stands after the bindings in a call of the registry. -/
def tableEnd : String := ", action, el); \x7d);"

/-- The kind of event and the bindings, from the line of a call. -/
def table? (line : List Char) : Option (Trigger × Json) := do
  let call ← "  registry.".toList.isPrefixOf? line
  let trigger ← Trigger.all.find? (·.registrar = String.ofList (call.takeWhile (· != '(')))
  let table ← literal? (tableStart trigger) tableEnd (call.dropWhile (· != '('))
  return (trigger, table)

/-- What the lines of a script register. -/
def ofLines? (lines : List (List Char)) : Option Registrations := do
  match ← between? (prologue.map String.toList) (epilogue.map String.toList) lines with
  | [] => none
  | line :: rest =>
    let tab ← tab? line
    let calls ← (runner.map String.toList).isPrefixOf? rest
    let tables ← calls.mapM table?
    return ⟨tab, tables⟩

/-- What a script registers, none if it is no script of a tab. -/
def read? (script : String) : Option Registrations := ofLines? (script.toList.splitOn '\n')

end Registrations

/-! ### What bindings say -/

/-- What was bound last for an action under a kind of event. -/
def lastPost? (bindings : List Binding) (trigger : Trigger) (action : String) : Option Post :=
  (bindings.reverse.find? fun b => b.trigger = trigger ∧ b.action = action).map (·.post)

/-- An object says what is posted: what is not set has no member. -/
structure Post.IsToldBy (p : Post) (x : Json) : Prop where
  isObject : ∃ ms, x = .object ms ∧ (ms.map (·.1)).Nodup ∧
    ∀ m ∈ ms, m.1 ∈ ["attrs", "checked", "command", "value"]
  command : x.member? "command" = some (.string p.command)
  attributes : x.member? "attrs" =
    if p.attributes = [] then none else some (.array (p.attributes.map .string))
  value : x.member? "value" = p.value.map .string
  checked : x.member? "checked" = p.checked.map .string

/-- What is registered says what the bindings of a tab say: each kind of event is registered at most
    once, if it has bindings, and each action has what was bound last. -/
structure Registrations.Tell (r : Registrations) (tabId : String) (bindings : List Binding) :
    Prop where
  tab : r.tab = .string tabId
  nodup : (r.tables.map (·.1)).Nodup
  mem_iff : ∀ t, t ∈ r.tables.map (·.1) ↔ ∃ b ∈ bindings, b.trigger = t
  posts : ∀ call ∈ r.tables, ∃ ms : Json.Members, call.2 = .object ms ∧ (ms.map (·.1)).Nodup ∧
    ∀ action, Option.Rel Post.IsToldBy (lastPost? bindings call.1 action) (ms.find? action)

end Dashboard.Wiring
