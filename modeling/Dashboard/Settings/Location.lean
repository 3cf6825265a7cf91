import Dashboard.Machine.Path
import Dashboard.Text.Basic
/-!
# Where settings are kept

* `Surroundings` — what the environment says about directories and the file of settings.
* `Settings.defaultPath?` — the file of settings if nobody names another one.
* `Settings.locate?` — the file of settings and who named it.
-/

namespace Dashboard

/-- What the environment says. -/
structure Surroundings where
  /-- The file of settings that is named in the environment. -/
  configPath : Option String := none
  /-- The directory for settings of programs. -/
  configDirectory : Option String := none
  /-- The directory for data of programs. -/
  dataDirectory : Option String := none

namespace Surroundings

/-- A directory that the environment names; without one, a directory in the home directory. -/
def directory? (named home : Option String) (rest : String) : Option String :=
  (named.filter Path.isAbsolute).or ((home.filter (!·.isEmpty)).map (Path.join · rest))

/-- What the variables of the environment say. -/
def ofVariables (valueOf : String → Option String) : Surroundings where
  configPath := valueOf "DEVBOARD_CONFIG"
  configDirectory := directory? (valueOf "XDG_CONFIG_HOME") (valueOf "HOME") ".config"
  dataDirectory := directory? (valueOf "XDG_DATA_HOME") (valueOf "HOME") ".local/share"

end Surroundings

namespace Settings

/-- Who named the file of settings. -/
inductive Origin where
  | commandLine
  | environment
  | standard
  deriving DecidableEq, Repr

/-- The file of settings if nobody names another one. -/
def defaultPath? (s : Surroundings) : Option String :=
  s.configDirectory.map fun d => Path.join (Path.join d "devboard") "config.toml"

/-- The file of settings. One named on the command line counts before one named in the environment,
    where a blank name counts for none. -/
def locate? (s : Surroundings) (explicit : Option String) : Option (String × Origin) :=
  match explicit with
  | some path => some (path, .commandLine)
  | none =>
    match s.configPath.filter (!Text.isBlankText ·) with
    | some path => some (path, .environment)
    | none => (defaultPath? s).map fun path => (path, .standard)

end Settings

end Dashboard
