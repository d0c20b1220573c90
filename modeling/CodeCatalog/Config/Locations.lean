import CodeCatalog.Files.Path

/-!
# Standard locations

Where the configuration file and the default collection are kept, as the environment says.

## Main definitions

* `CodeCatalog.Environment` — the variables of the environment.
* `CodeCatalog.Locations` — the directories and files.
-/

namespace CodeCatalog

/-- The variables of the environment. -/
structure Environment where
  bindings : List (String × String)
deriving Repr, BEq, DecidableEq, Inhabited

/-- The value of a variable. -/
def Environment.get? (env : Environment) (name : String) : Option String :=
  (env.bindings.find? (·.1 == name)).map (·.2)

namespace Locations

/-- The directory name of this program. -/
def appDirectory : String := "codeseer"

/-- A standard directory: the variable when it holds an absolute path, else a place below the
home directory, else the current directory. -/
def standardDirectory (env : Environment) (name fallback : String) : String :=
  let home := match env.get? "HOME" with
    | some home => if home.isEmpty then "." else Path.join home fallback
    | none => "."
  match env.get? name with
  | some dir => if Path.isAbsolute dir then dir else home
  | none => home

/-- Where data is kept. -/
def dataDirectory (env : Environment) : String :=
  Path.join (standardDirectory env "XDG_DATA_HOME" ".local/share") appDirectory

/-- Where the configuration is kept. -/
def configDirectory (env : Environment) : String :=
  Path.join (standardDirectory env "XDG_CONFIG_HOME" ".config") appDirectory

/-- The default collection. -/
def collectionFile (env : Environment) : String :=
  Path.join (dataDirectory env) "collection.jsonl"

/-- The default configuration file. -/
def configFile (env : Environment) : String := Path.join (configDirectory env) "config.toml"

end Locations

end CodeCatalog
