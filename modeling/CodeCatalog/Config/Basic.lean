import CodeCatalog.Config.Locations
import CodeCatalog.Discovery.Walk
import CodeCatalog.Text.Lowercase
import CodeCatalog.Tokens.Counter

/-!
# Configuration

The settings of the program, what they are when nothing is said, which of them are valid, and
how the environment overrides them.

## Main definitions

* `CodeCatalog.ParseErrorPolicy` — what to do with files that cannot be parsed.
* `CodeCatalog.Config` — the settings.
* `CodeCatalog.Config.default` — the settings when nothing is said.
* `CodeCatalog.Config.validate` — whether settings are valid.
* `CodeCatalog.Config.override` — settings with those of variables in their place.
-/

namespace CodeCatalog

/-! ## Files that cannot be parsed -/

/-- What to do with a file that cannot be read or parsed. -/
inductive ParseErrorPolicy where
  /-- End the build with the error of the file. -/
  | abort
  /-- Leave the file out. -/
  | skip
deriving Repr, BEq, DecidableEq, Inhabited

/-- The name of a policy. -/
def ParseErrorPolicy.label : ParseErrorPolicy → String
  | .abort => "abort"
  | .skip => "skip"

/-- Reads a policy; case and blanks at the ends do not matter. -/
def ParseErrorPolicy.ofString (s : String) : Except ConfigError ParseErrorPolicy :=
  let word := Text.lowercase (Text.trim s)
  if word = "abort" then .ok .abort
  else if word = "skip" then .ok .skip
  else .error (.invalidValue "catalog.on_parse_error"
    s!"must be 'abort' or 'skip', got '{word}'")

/-! ## Settings -/

/-- Settings for counting tokens. -/
structure TokenizerOptions where
  model : String
  allowedSpecial : List String
deriving Repr, BEq, DecidableEq, Inhabited

/-- Settings for building catalogs. -/
structure CatalogOptions where
  outputPath : String
  pretty : Bool
  onParseError : ParseErrorPolicy
  parallelExtraction : Bool
deriving Repr, BEq, DecidableEq, Inhabited

/-- The settings of the program. -/
structure Config where
  /-- The directory to catalog. -/
  codePath : Option String
  discovery : DiscoveryOptions
  tokenizer : TokenizerOptions
  catalog : CatalogOptions
  /-- The file of the collection. -/
  collectionPath : String
deriving Repr, BEq, DecidableEq, Inhabited

/-- What is discovered when nothing is said. -/
def DiscoveryOptions.default : DiscoveryOptions := ⟨["py"], [], false, false⟩

/-- How tokens are counted when nothing is said. -/
def TokenizerOptions.default : TokenizerOptions := ⟨"gpt-4", ["<|endoftext|>"]⟩

/-- How catalogs are built when nothing is said. -/
def CatalogOptions.default : CatalogOptions := ⟨"code_data.json", true, .abort, false⟩

namespace Config

/-- The settings when nothing is said; the place of the collection is the environment's. -/
def default (env : Environment) : Config :=
  ⟨none, .default, .default, .default, Locations.collectionFile env⟩

/-- Whether settings are valid; the first fault is reported. -/
def validate (c : Config) : Except ConfigError Unit :=
  if c.discovery.extensions.isEmpty then
    .error (.invalidValue "discovery.extensions" "must list at least one extension")
  else
    match c.discovery.extensions.find? fun ext => ext.isEmpty || ext.toList.head? == some '.' with
    | some ext => .error (.invalidValue "discovery.extensions"
        s!"extensions are given without a leading dot, got '{ext}'")
    | none =>
      if (Text.trim c.tokenizer.model).isEmpty then
        .error (.invalidValue "tokenizer.model" "must not be empty")
      else if c.catalog.outputPath.isEmpty then
        .error (.invalidValue "catalog.output_path" "must not be empty")
      else .ok ()

/-- The value of a variable, unless it is blank. -/
def setting (lookup : String → Option String) (name : String) : Option String :=
  (lookup name).filter fun value => !(Text.trim value).isEmpty

/-- The policy that a variable asks for, if it names one. -/
def policySetting (lookup : String → Option String) : Option ParseErrorPolicy :=
  (setting lookup "CODESEER_ON_PARSE_ERROR").bind fun value =>
    (ParseErrorPolicy.ofString value).toOption

/-- Settings with those of variables in their place. -/
def override (c : Config) (lookup : String → Option String) : Config :=
  { c with
    codePath := (setting lookup "CODESEER_CODE_PATH").or c.codePath
    tokenizer := { c.tokenizer with
      model := (setting lookup "CODESEER_MODEL").getD c.tokenizer.model }
    catalog := { c.catalog with
      outputPath := (setting lookup "CODESEER_OUTPUT").getD c.catalog.outputPath
      onParseError := (policySetting lookup).getD c.catalog.onParseError } }

end Config

end CodeCatalog
