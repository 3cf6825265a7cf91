import Dashboard.Json.Record
import Dashboard.Payload
/-!
# Commands

What the view embedding the dashboard sends: a command with arguments, from an element of a tab or
from none. Arguments are as little to be trusted as what daemons send, and are read the same way.

* `Command.read?` — the command in a JSON text, `Command.toJson` — its JSON.
* `Command.ofJson?_toJson` — in what is written for a command the command is found.
* `Command.word?`, `Command.truth?`, `Command.count?` — an argument.
* `Command.ofLine?` — the command on a line; a blank or malformed line holds none.
-/

namespace Dashboard

/-- A command. -/
structure Command where
  name : String
  /-- The tab to which it is addressed. -/
  tab : Option String := none
  /-- The arguments, sorted by name. -/
  arguments : Json.Members := []

namespace Command

/-- The names of the member that holds the tab. -/
def tabNames : List String := ["tabId", "tab_id"]

/-- The only value among some, or null if there is none. -/
def only? : List Json → Option Json
  | [] => some .null
  | [x] => some x
  | _ => none

/-- The values of all members with one of the names. -/
def valuesOf (names : List String) (ms : Json.Members) : List Json :=
  (ms.filter fun m => names.contains m.1).map (·.2)

/-- A text, or nothing where there is null. -/
def textOrNull? : Json → Option (Option String)
  | .null => some none
  | .string s => some (some s)
  | _ => none

/-- The command that an object holds. Its name and its tab may be given only once; the last of
    several arguments with one name counts. -/
def ofJson? : Json → Option Command
  | .object ms => do
    let name ← (← only? (valuesOf ["command"] ms)).string?
    let tab ← textOrNull? (← only? (valuesOf tabNames ms))
    let others := ms.filter fun m => !("command" :: tabNames).contains m.1
    return { name, tab, arguments := Json.Members.sorted (Json.normalMembers others) }
  | _ => none

/-- The command in a JSON text. -/
def read? (text : String) : Option Command :=
  (Json.readRaw? text).bind ofJson?

def toJson (c : Command) : Json :=
  .object <|
    ("command", .string c.name) ::
    ((match c.tab with | some t => [("tabId", .string t)] | none => []) ++ c.arguments)

section

variable {ms : Json.Members}

theorem valuesOf_cons (names : List String) (m : String × Json) (ms : Json.Members) :
    valuesOf names (m :: ms) =
      if m.1 ∈ names then m.2 :: valuesOf names ms else valuesOf names ms := by
  by_cases hm : m.1 ∈ names <;> simp [valuesOf, hm]

/-- Members with other names have no values under these. -/
theorem valuesOf_of_free (hms : ∀ m ∈ ms, m.1 ∉ "command" :: tabNames) {names : List String}
    (hnames : ∀ n ∈ names, n ∈ "command" :: tabNames) : valuesOf names ms = [] := by
  rw [valuesOf, List.map_eq_nil_iff, List.filter_eq_nil_iff]
  intro m hm hcontains
  have hmem : m.1 ∈ names := by simpa using hcontains
  exact hms m hm (hnames m.1 hmem)

/-- A member that is no argument is left out of the arguments. -/
theorem filter_known {n : String} (hn : n ∈ "command" :: tabNames) {x : Json} :
    List.filter (fun m => !("command" :: tabNames).contains m.1) ((n, x) :: ms) =
      ms.filter fun m => !("command" :: tabNames).contains m.1 := by
  have hcontains : ("command" :: tabNames).contains n = true := List.contains_iff_mem.mpr hn
  exact List.filter_cons_of_neg (by simp only [hcontains, Bool.not_true, Bool.false_eq_true,
    not_false_iff])

end

/-- In what is written for a command the command is found, its arguments in normal form. -/
theorem ofJson?_toJson (c : Command) (hc : ∀ m ∈ c.arguments, m.1 ∉ "command" :: tabNames) :
    ofJson? c.toJson =
      some { c with arguments := Json.Members.sorted (Json.normalMembers c.arguments) } := by
  have hname : valuesOf ["command"] c.arguments = [] := valuesOf_of_free hc (by simp)
  have htab : valuesOf tabNames c.arguments = [] :=
    valuesOf_of_free hc fun n hn => List.mem_cons_of_mem _ hn
  have hothers : c.arguments.filter (fun m => !("command" :: tabNames).contains m.1) =
      c.arguments := by
    refine List.filter_eq_self.mpr fun m hm => ?_
    simpa using hc m hm
  have hknown : "tabId" ∈ tabNames := by decide
  have hunknown : "command" ∉ tabNames := by decide
  have hother : "tabId" ∉ ["command"] := by decide
  obtain ⟨name, tab, arguments⟩ := c
  dsimp only at hname htab hothers
  -- The names of the command and of its tab are put in front, and they alone are taken out.
  cases tab with
  | none =>
    have hnames : valuesOf ["command"] (("command", .string name) :: arguments) =
        [.string name] := by
      rw [valuesOf_cons, if_pos List.mem_cons_self, hname]
    have htabs : valuesOf tabNames (("command", .string name) :: arguments) = [] := by
      rw [valuesOf_cons, if_neg hunknown, htab]
    simp only [toJson, List.nil_append, ofJson?, hnames, htabs]
    rw [filter_known List.mem_cons_self, hothers]
    rfl
  | some t =>
    have hnames : valuesOf ["command"]
        (("command", .string name) :: ("tabId", .string t) :: arguments) = [.string name] := by
      rw [valuesOf_cons, if_pos List.mem_cons_self, valuesOf_cons, if_neg hother, hname]
    have htabs : valuesOf tabNames
        (("command", .string name) :: ("tabId", .string t) :: arguments) = [.string t] := by
      rw [valuesOf_cons, if_neg hunknown, valuesOf_cons, if_pos hknown, htab]
    simp only [toJson, List.cons_append, List.nil_append, ofJson?, hnames, htabs]
    rw [filter_known List.mem_cons_self, filter_known (List.mem_cons_of_mem _ hknown), hothers]
    rfl

/-- The arguments as an object. -/
def payload (c : Command) : Json := .object c.arguments

/-- An argument that is a text and not empty. -/
def word? (c : Command) (name : String) : Option String := c.payload.wordOf? [name]

def truth? (c : Command) (name : String) : Option Bool := c.payload.truthOf? [name]

def count? (c : Command) (name : String) : Option Nat := c.payload.countOf? [name]

/-- What a line of input holds. -/
inductive Line where
  | blank
  | malformed
  | command (c : Command)

/-- What a line of input holds. -/
def Line.read (line : String) : Line :=
  if Text.isBlankText line then blank
  else
    match read? (Text.trim line) with
    | some c => command c
    | none => malformed

/-- The command on a line. -/
def ofLine? (line : String) : Option Command :=
  match Line.read line with
  | .command c => some c
  | _ => none

end Command

end Dashboard
