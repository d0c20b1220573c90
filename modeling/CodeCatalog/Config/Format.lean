import CodeCatalog.Config.Basic
import CodeCatalog.Toml.Printer
import CodeCatalog.Toml.Reader
import CodeCatalog.Toml.Shape

/-!
# The format of settings

## Main definitions

* `CodeCatalog.Config.toToml` — settings as a text.
* `CodeCatalog.Config.ofToml` — the settings of a text; what it does not say stays as it is when
  nothing is said.
-/

namespace CodeCatalog

open Toml

namespace Config

/-! ## Writing -/

/-- Settings as a text: the directory first, if there is one, then a table for every group. -/
def toToml (c : Config) : String :=
  let codePath := match c.codePath with
    | some path => writeEntry "code_path" (writeText path) ++ "\n"
    | none => ""
  codePath ++ "\n".intercalate [
    writeTable "discovery" [
      writeEntry "extensions" (writeTexts c.discovery.extensions),
      writeEntry "exclude_patterns" (writeTexts c.discovery.excludePatterns),
      writeEntry "respect_gitignore" (writeBoolean c.discovery.respectGitignore),
      writeEntry "follow_links" (writeBoolean c.discovery.followLinks)],
    writeTable "tokenizer" [
      writeEntry "model" (writeText c.tokenizer.model),
      writeEntry "allowed_special" (writeTexts c.tokenizer.allowedSpecial)],
    writeTable "catalog" [
      writeEntry "output_path" (writeText c.catalog.outputPath),
      writeEntry "pretty" (writeBoolean c.catalog.pretty),
      writeEntry "on_parse_error" (writeText c.catalog.onParseError.label),
      writeEntry "parallel_extraction" (writeBoolean c.catalog.parallelExtraction)],
    writeTable "collection" [writeEntry "path" (writeText c.collectionPath)]]

/-! ## Reading -/

/-- What messages call a path. -/
def pathName : String := "path string"

/-- The settings for finding source files. -/
def discoverySettings : List (Setting DiscoveryOptions) := [
  ⟨"extensions", fun o item => item.asTexts.map fun extensions => { o with extensions }⟩,
  ⟨"exclude_patterns", fun o item =>
    item.asTexts.map fun excludePatterns => { o with excludePatterns }⟩,
  ⟨"respect_gitignore", fun o item =>
    item.asBoolean.map fun respectGitignore => { o with respectGitignore }⟩,
  ⟨"follow_links", fun o item => item.asBoolean.map fun followLinks => { o with followLinks }⟩]

/-- The settings for counting tokens. -/
def tokenizerSettings : List (Setting TokenizerOptions) := [
  ⟨"model", fun o item => (item.asText "a string").map fun model => { o with model }⟩,
  ⟨"allowed_special", fun o item =>
    item.asTexts.map fun allowedSpecial => { o with allowedSpecial }⟩]

/-- The policies by name. -/
def policies : List (String × ParseErrorPolicy) :=
  [ParseErrorPolicy.abort, .skip].map fun p => (p.label, p)

/-- The settings for building catalogs. -/
def catalogSettings : List (Setting CatalogOptions) := [
  ⟨"output_path", fun o item =>
    (item.asText pathName).map fun outputPath => { o with outputPath }⟩,
  ⟨"pretty", fun o item => item.asBoolean.map fun pretty => { o with pretty }⟩,
  ⟨"on_parse_error", fun o item =>
    (item.asChoice policies).map fun onParseError => { o with onParseError }⟩,
  ⟨"parallel_extraction", fun o item =>
    item.asBoolean.map fun parallelExtraction => { o with parallelExtraction }⟩]

/-- The settings of the collection, which is only its file. -/
def collectionSettings : List (Setting String) := [⟨"path", fun _ item => item.asText pathName⟩]

/-- All settings. A group starts from what holds when nothing is said. -/
def settings (start : Config) : List (Setting Config) := [
  ⟨"code_path", fun c item =>
    (item.asText pathName).map fun path => { c with codePath := some path }⟩,
  ⟨"discovery", fun c item =>
    (item.asGroup "struct DiscoveryConfig" discoverySettings start.discovery).map
      fun discovery => { c with discovery }⟩,
  ⟨"tokenizer", fun c item =>
    (item.asGroup "struct TokenizerConfig" tokenizerSettings start.tokenizer).map
      fun tokenizer => { c with tokenizer }⟩,
  ⟨"catalog", fun c item =>
    (item.asGroup "struct CatalogConfig" catalogSettings start.catalog).map
      fun catalog => { c with catalog }⟩,
  ⟨"collection", fun c item =>
    (item.asGroup "struct CollectionConfig" collectionSettings start.collectionPath).map
      fun collectionPath => { c with collectionPath }⟩]

/-- The settings of a text. -/
def ofToml (start : Config) (text : String) : Except Fault Config :=
  match readTable text with
  | .error offset => .error (.malformed offset)
  | .ok table =>
    match setByName (settings start) start table.entries with
    | .error m => .error (.unsuited m.span m.reason)
    | .ok c => .ok c

end Config

end CodeCatalog
