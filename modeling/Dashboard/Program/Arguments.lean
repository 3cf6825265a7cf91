/-!
# The command line

* `Program.Arguments` — what the command line asks for.
* `Arguments.parse` — reads a command line, word by word; the first word that makes no sense, or
  that asks for help, ends it.
-/

namespace Dashboard.Program

/-- What the command line asks for. -/
structure Arguments where
  /-- The file of settings. -/
  config : Option String := none
  /-- Load every tab once, print one frame and stop. -/
  once : Bool := false
  /-- The tab to draw, or to make active at first. -/
  tab : Option String := none
  /-- Write a file of settings and stop. -/
  installs : Bool := false
  deriving DecidableEq, Repr

/-- Why a command line asks for nothing that can be done. -/
inductive Usage where
  | help
  | unexpected (word : String)
  | missingValue (option : String)
  | emptyValue (option : String)
  | needlessValue (option : String)
  | repeated (option : String)
  deriving DecidableEq, Repr

/-- What the program can be asked for. -/
def helpText : String :=
  "Developer dashboard tabs fed by background daemons\n\n" ++
  "Usage: devboard [OPTIONS]\n\n" ++
  "Options:\n" ++
  "      --config <PATH>  Path to config.toml (overrides $DEVBOARD_CONFIG)\n" ++
  "      --once           Load every tab once, print a single frame and exit\n" ++
  "      --tab <TAB>      Tab to render with --once, or to select initially\n" ++
  "      --init-config    Write a commented default config file and exit\n" ++
  "  -h, --help           Print help\n"

/-- The wording of a refusal. -/
def Usage.message : Usage → String
  | help => helpText
  | unexpected word => "error: unexpected argument '" ++ word ++ "' found\n"
  | missingValue option =>
    "error: a value is required for '" ++ option ++ "' but none was supplied\n"
  | emptyValue option =>
    "error: a value is required for '" ++ option ++ "' but none was supplied\n"
  | needlessValue option => "error: unexpected value for '" ++ option ++ "' found\n"
  | repeated option =>
    "error: the argument '" ++ option ++ "' cannot be used multiple times\n"

/-- With what the program ends. -/
def Usage.exitCode : Usage → Nat
  | help => 0
  | _ => 2

namespace Arguments

/-- Whether a word is an option and cannot be the value of one. A lone hyphen can. -/
def isOption (word : String) : Bool :=
  match word.toList with
  | '-' :: _ :: _ => true
  | _ => false

/-- An option with the value that is attached to it. -/
def splitValue (word : String) : String × Option String :=
  let cs := word.toList
  match cs.dropWhile (· != '=') with
  | _ :: value => (String.ofList (cs.takeWhile (· != '=')), some (String.ofList value))
  | [] => (word, none)

def setConfig (a : Arguments) (value : String) : Except Usage Arguments :=
  if a.config.isSome then .error (.repeated "--config")
  else if value.isEmpty then .error (.emptyValue "--config")
  else .ok { a with config := some value }

def setTab (a : Arguments) (value : String) : Except Usage Arguments :=
  if a.tab.isSome then .error (.repeated "--tab") else .ok { a with tab := some value }

/-- An option that takes no value. -/
def setFlag (a : Arguments) (option : String) : Except Usage Arguments :=
  if option = "--once" then
    if a.once then .error (.repeated option) else .ok { a with once := true }
  else if a.installs then .error (.repeated option)
  else .ok { a with installs := true }

/-- What a word asks for that brings no value from the next word; none if it needs one. -/
def word? (a : Arguments) (word : String) : Option (Except Usage Arguments) :=
  match splitValue word with
  | ("--config", value) => value.map a.setConfig
  | ("--tab", value) => value.map a.setTab
  | (option, value) =>
    some <|
      if ["--once", "--init-config", "--help"].contains option then
        if value.isSome then .error (.needlessValue option)
        else if option = "--help" then .error .help
        else a.setFlag option
      else
        match word.toList with
        | '-' :: 'h' :: _ => .error .help
        | _ => .error (.unexpected word)

/-- Reads the rest of a command line. -/
def read (a : Arguments) : List String → Except Usage Arguments
  | [] => .ok a
  | ["--"] => .ok a
  | "--" :: word :: _ => .error (.unexpected word)
  | [word] =>
    match a.word? word with
    | some r => r
    | none => .error (.missingValue word)
  | word :: next :: rest =>
    match a.word? word with
    | some r => r.bind fun a => a.read (next :: rest)
    | none =>
      if isOption next then .error (.missingValue word)
      else (if word = "--config" then a.setConfig next else a.setTab next).bind fun a => a.read rest

/-- Reads a command line. -/
def parse (words : List String) : Except Usage Arguments := read {} words

end Arguments

end Dashboard.Program
