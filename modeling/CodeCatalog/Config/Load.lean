import CodeCatalog.Config.Format
import CodeCatalog.Files.System

/-!
# Settings in files

## Main definitions

* `CodeCatalog.Config.fromFile` — the settings of a file.
* `CodeCatalog.Config.loadOrDefault` — the settings of a given file, of the one at the usual place,
  or those when nothing is said.
* `CodeCatalog.Config.load` — the same with those of the environment in their place.
* `CodeCatalog.Config.save` — writing settings to a file.
-/

namespace CodeCatalog.Config

/-- The settings of a text, if they are valid. -/
def parse (env : Environment) (text : String) : Except ConfigError Config :=
  match ofToml (default env) text with
  | .error fault => .error (.parseFailed s!"Invalid TOML: {fault.message text}")
  | .ok c => c.validate.map fun () => c

/-- The settings of a file, if they are valid. -/
def fromFile (fs : FileSystem) (env : Environment) (path : String) : Except ConfigError Config :=
  if !fs.exists? path then .error (.fileNotFound path)
  else
    match fs.readText path with
    | .error fault => .error (.loadFailed s!"Failed to read config file: {fault.message}")
    | .ok text => parse env text

/-- The settings of a given file, of the one at the usual place, or those when nothing is said. -/
def loadOrDefault (fs : FileSystem) (env : Environment) (path : Option String) :
    Except ConfigError Config :=
  match path with
  | some path => fromFile fs env path
  | none =>
    let path := Locations.configFile env
    if fs.exists? path then fromFile fs env path else .ok (default env)

/-- The settings of a file with those of the environment in their place. -/
def load (fs : FileSystem) (env : Environment) (path : Option String) :
    Except ConfigError Config :=
  match loadOrDefault fs env path with
  | .error e => .error e
  | .ok c =>
    let c := c.override env.get?
    c.validate.map fun () => c

/-- Writes settings to a file, and creates the directories above it. -/
def save (fs : FileSystem) (c : Config) (path : String) :
    FileSystem × Except ConfigError Unit :=
  match fs.createParents path with
  | (fs, .error e) => (fs, .error (.saveFailed s!"Failed to create config directory: {e.message}"))
  | (fs, .ok ()) =>
    match fs.write path c.toToml.toUTF8 with
    | .error e => (fs, .error (.saveFailed s!"Failed to write config file: {e.message}"))
    | .ok fs => (fs, .ok ())

end CodeCatalog.Config
