import Dashboard.Json.Printer
/-!
# What elements do

The view embedding the dashboard turns events on elements into messages. An element names an
action; the bindings of its tab say, for each kind of event, which message the action posts and
which parts of it are read off the element.

* `Wiring.Trigger` — the kinds of event.
* `Wiring.Post` — the message to be posted.
* `Wiring.Binding` — a trigger, an action and what it posts.
* `Wiring.table` — the bindings of one trigger by action; of several for one action the last counts.
* `Wiring.script` — the script that registers the bindings of a tab.
-/

namespace Dashboard.Wiring

/-- The kinds of event that elements react to. -/
inductive Trigger where
  | click
  | change
  /-- A press of the Enter key. -/
  | enter
  deriving DecidableEq, Repr

namespace Trigger

def all : List Trigger := [click, change, enter]

/-- The function that registers a handler. -/
def registrar : Trigger → String
  | click => "registerClickHandler"
  | change => "registerChangeHandler"
  | enter => "registerKeypressHandler"

/-- What the handler does before anything else. -/
def guard : Trigger → String
  | enter => "if (event.key !== 'Enter') \x7b return; \x7d "
  | _ => ""

end Trigger

/-- A message to be posted. -/
structure Post where
  /-- The command of the message. -/
  command : String
  /-- Names of data of the element that are copied under the same names. -/
  attributes : List String := []
  /-- The member that receives the value of the element. -/
  value : Option String := none
  /-- The member that receives whether the element is checked. -/
  checked : Option String := none
  deriving DecidableEq, Repr

/-- A member that is left out if there is nothing to write. -/
def Post.optional (name : String) : Option String → Json.Members
  | some s => [(name, .string s)]
  | none => []

def Post.toJson (p : Post) : Json :=
  .object <|
    (if p.attributes.isEmpty then [] else [("attrs", .array (p.attributes.map .string))]) ++
    Post.optional "checked" p.checked ++
    [("command", .string p.command)] ++
    Post.optional "value" p.value

/-- What an action posts when an event triggers it. -/
structure Binding where
  trigger : Trigger
  action : String
  post : Post
  deriving DecidableEq, Repr

namespace Binding

/-- A click that posts the command of the action's own name. -/
def click (command : String) (attributes : List String) : Binding :=
  ⟨.click, command, { command, attributes }⟩

/-- A switch that posts the state that it has taken. -/
def toggle (command : String) (attributes : List String) (state : String) : Binding :=
  ⟨.change, command, { command, attributes, checked := some state }⟩

/-- A field or a choice that posts the value that it has taken. -/
def choose (command : String) (value : String) : Binding :=
  ⟨.change, command, { command, value := some value }⟩

/-- A field that posts its value when Enter is pressed. -/
def submit (command : String) (value : String) : Binding :=
  ⟨.enter, command, { command, value := some value }⟩

end Binding

/-- The bindings of a trigger by action. -/
def table (trigger : Trigger) (bindings : List Binding) : Json.Members :=
  Json.Members.sorted <|
    (bindings.filter (·.trigger = trigger)).map fun b => (b.action, b.post.toJson)

/-- The part of a script that all tabs share: it builds a message and posts it. -/
def runner : List String :=
  [ "  function run(table, action, el) \x7b"
  , "    var binding = table[action];"
  , "    if (!binding) \x7b return; \x7d"
  , "    var message = \x7b command: binding.command, tabId: tabId \x7d;"
  , "    (binding.attrs || []).forEach(function (name) \x7b message[name] = el.getAttribute('data-' + name); \x7d);"
  , "    if (binding.value) \x7b message[binding.value] = el.value; \x7d"
  , "    if (binding.checked) \x7b message[binding.checked] = el.checked; \x7d"
  , "    registry.post(message);"
  , "  \x7d" ]

/-- The registration of a trigger, none without bindings. -/
def registration (trigger : Trigger) (bindings : List Binding) : List String :=
  match table trigger bindings with
  | [] => []
  | members =>
    [ "  registry." ++ trigger.registrar ++ "(tabId, function (action, el, event) \x7b "
        ++ trigger.guard ++ "run(" ++ (Json.object members).embedded ++ ", action, el); \x7d);" ]

/-- The script that registers the bindings of a tab. -/
def script (tabId : String) (bindings : List Binding) : String :=
  "\n".intercalate <|
    [ "(function () \x7b"
    , "  var registry = window.devboardRegistry;"
    , "  if (!registry) \x7b return; \x7d"
    , "  var tabId = " ++ (Json.string tabId).embedded ++ ";" ] ++
    runner ++
    Trigger.all.flatMap (registration · bindings) ++
    [ "\x7d)();" ]

end Dashboard.Wiring
