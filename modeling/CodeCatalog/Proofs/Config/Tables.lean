import CodeCatalog.Config.Load
import CodeCatalog.Proofs.Text.Lines
import CodeCatalog.Proofs.Toml.Settings

/-!
# Settings in tables

The settings that are loaded are those that the table of the settings file gives. Each of them has
one key, in the table or in the table of its group. Settings that are loaded are valid, and stay so
whatever the variables of the environment say.

## Main definitions

* `CodeCatalog.Config.TableOf` — the table of the settings file, empty if there is no file.
* `CodeCatalog.Toml.Table.Sectioned` — the groups of settings are tables.

## Main results

* `CodeCatalog.Config.setByName_of_loadOrDefault` — the settings of a file are those of its table.
* `CodeCatalog.Config.validate_override` — variables never make settings invalid.
* `CodeCatalog.Config.governs_discovery`, `governs_tokenizer`, `governs_catalog`,
  `governs_collection`, `governs_codePath`, `governs_groups` — the key of every setting.
-/

namespace CodeCatalog

open Toml

/-! ## The settings file -/

/-- The names of the groups of settings. -/
def Config.groupNames : List String := ["discovery", "tokenizer", "catalog", "collection"]

/-- Whether a value is a table. -/
def Toml.Item.isTable : Item → Bool
  | .table _ _ => true
  | _ => false

/-- The groups of settings are tables, as far as they are there. Nothing is asked of the values in
them: a file with a value of another type than expected is not loaded. -/
def Toml.Table.Sectioned (t : Table) : Prop :=
  ∀ name ∈ Config.groupNames, (t.get? name).all Item.isTable

instance (t : Table) : Decidable t.Sectioned := List.decidableBAll _ _

/-- What stands under the name of a group is a table. -/
lemma Toml.Table.Sectioned.table {t : Table} (h : t.Sectioned) {name : String}
    (hname : name ∈ Config.groupNames) {item : Item} (hget : t.get? name = some item) :
    ∃ form entries, item = .table form entries := by
  have htable : item.isTable = true := by simpa [hget] using h name hname
  cases item with
  | table form entries => exact ⟨form, entries, rfl⟩
  | _ => cases htable

namespace Config

variable {fs : FileSystem} {env : Environment} {configPath : Option String} {t : Table} {c : Config}

/-- The file that settings are taken from: the given one, or the one at the usual place if there is
one. -/
def settingsFile? (fs : FileSystem) (env : Environment) (configPath : Option String) :
    Option String :=
  configPath.or
    (if fs.exists? (Locations.configFile env) then some (Locations.configFile env) else none)

/-- The table of the settings file, empty if there is no file. -/
def TableOf (fs : FileSystem) (file : Option String) (t : Table) : Prop :=
  match file with
  | some path => ∃ text, fs.readText path = .ok text ∧ readTable text = .ok t
  | none => t.entries = []

/-- Every key of the table of a file stands there once. -/
lemma TableOf.distinct {file : Option String} (h : TableOf fs file t) : t.Distinct := by
  cases file with
  | none =>
    have hempty : t.entries = [] := h
    exact ⟨by simp [hempty], by simp [hempty]⟩
  | some path =>
    obtain ⟨text, -, hread⟩ := h
    exact distinct_of_readTable hread

/-- What valid settings have: extensions, none of them empty or with a dot, a model and an output.
-/
lemma validate_eq_ok_iff : c.validate = .ok () ↔
    c.discovery.extensions.isEmpty = false ∧
    c.discovery.extensions.find? (fun ext => ext.isEmpty || ext.toList.head? == some '.') = none ∧
    (Text.trim c.tokenizer.model).isEmpty = false ∧ c.catalog.outputPath.isEmpty = false := by
  unfold validate
  constructor
  · intro h
    split at h
    · cases h
    · split at h
      · cases h
      · split at h
        · cases h
        · split at h
          · cases h
          · rename_i hextensions _ hdots hmodel hpath
            simp only [Bool.not_eq_true] at hextensions hmodel hpath
            exact ⟨hextensions, hdots, hmodel, hpath⟩
  · rintro ⟨hextensions, hdots, hmodel, hpath⟩
    simp only [hextensions, hdots, hmodel, hpath, Bool.false_eq_true, if_false]

/-- The settings when nothing is said are valid. -/
lemma validate_default (env : Environment) : (default env).validate = .ok () := by
  have hmodel : (Text.trim TokenizerOptions.default.model).isEmpty = false := by decide
  have hpath : CatalogOptions.default.outputPath.isEmpty = false := by decide
  exact validate_eq_ok_iff.mpr ⟨rfl, rfl, hmodel, hpath⟩

/-- A file that is loaded has the settings of its table, and these are valid. -/
lemma setByName_of_fromFile {path text : String} (htext : fs.readText path = .ok text)
    (hread : readTable text = .ok t) (hload : fromFile fs env path = .ok c) :
    setByName (settings (default env)) (default env) t.entries = .ok c ∧ c.validate = .ok () := by
  unfold fromFile at hload
  split at hload
  · cases hload
  · rw [htext] at hload
    dsimp only [parse, ofToml] at hload
    rw [hread] at hload
    dsimp only at hload
    cases hset : setByName (settings (default env)) (default env) t.entries with
    | error m =>
      rw [hset] at hload
      cases hload
    | ok c' =>
      rw [hset] at hload
      obtain ⟨_, hvalid, rfl⟩ := map_eq_ok_iff.mp hload
      exact ⟨rfl, hvalid⟩

/-- **The settings of a file are those of its table**, and without a file those of an empty table.
They are valid. -/
lemma setByName_of_loadOrDefault (ht : TableOf fs (settingsFile? fs env configPath) t)
    (hload : loadOrDefault fs env configPath = .ok c) :
    setByName (settings (default env)) (default env) t.entries = .ok c ∧ c.validate = .ok () := by
  unfold loadOrDefault at hload
  unfold settingsFile? at ht
  cases configPath with
  | some path =>
    obtain ⟨text, htext, hread⟩ := ht
    exact setByName_of_fromFile htext hread hload
  | none =>
    dsimp only at hload
    rw [Option.none_or] at ht
    split at hload
    · rename_i hthere
      rw [if_pos hthere] at ht
      obtain ⟨text, htext, hread⟩ := ht
      exact setByName_of_fromFile htext hread hload
    · rename_i hthere
      rw [if_neg hthere] at ht
      have hempty : t.entries = [] := ht
      rw [hempty, ← Except.ok.inj hload]
      exact ⟨rfl, validate_default env⟩

/-- A variable that counts is not blank. -/
lemma not_isEmpty_of_setting {lookup : String → Option String} {name value : String}
    (h : setting lookup name = some value) : (Text.trim value).isEmpty = false := by
  simpa using (Option.filter_eq_some_iff.mp h).2

/-- **Variables never make settings invalid**: blank ones do not count. -/
lemma validate_override (h : c.validate = .ok ()) (lookup : String → Option String) :
    (c.override lookup).validate = .ok () := by
  obtain ⟨hextensions, hdots, hmodel, hpath⟩ := validate_eq_ok_iff.mp h
  refine validate_eq_ok_iff.mpr ⟨hextensions, hdots, ?_, ?_⟩
  · cases hset : setting lookup "CODESEER_MODEL" with
    | none => simpa only [override, hset, Option.getD_none] using hmodel
    | some model =>
      simpa only [override, hset, Option.getD_some] using not_isEmpty_of_setting hset
  · cases hset : setting lookup "CODESEER_OUTPUT" with
    | none => simpa only [override, hset, Option.getD_none] using hpath
    | some path =>
      have hblank : ¬ ∀ x ∈ path.toList, Text.isBlank x := by
        rw [← Text.trim_isEmpty_iff, not_isEmpty_of_setting hset]
        exact Bool.false_ne_true
      have hempty : path.isEmpty = false := by
        rw [← Bool.not_eq_true, String.isEmpty_iff]
        rintro rfl
        exact hblank nofun
      simpa only [override, hset, Option.getD_some] using hempty

/-! ### The settings of each group -/

/-- The keys that govern the settings of discovery. -/
lemma governs_discovery :
    Governs discoverySettings "extensions" (·.extensions) Item.asTexts ∧
    Governs discoverySettings "exclude_patterns" (·.excludePatterns) Item.asTexts ∧
    Governs discoverySettings "respect_gitignore" (·.respectGitignore) Item.asBoolean ∧
    Governs discoverySettings "follow_links" (·.followLinks) Item.asBoolean := by
  refine ⟨?_, ?_, ?_, ?_⟩ <;> constructor <;>
    simp [discoverySettings, Setting.writes_map, Setting.keeps_map]

/-- The keys that govern the settings of the tokenizer. -/
lemma governs_tokenizer :
    Governs tokenizerSettings "model" (·.model) (Item.asText "a string") ∧
    Governs tokenizerSettings "allowed_special" (·.allowedSpecial) Item.asTexts := by
  refine ⟨?_, ?_⟩ <;> constructor <;>
    simp [tokenizerSettings, Setting.writes_map, Setting.keeps_map]

/-- The keys that govern the settings of the catalog. -/
lemma governs_catalog :
    Governs catalogSettings "output_path" (·.outputPath) (Item.asText pathName) ∧
    Governs catalogSettings "pretty" (·.pretty) Item.asBoolean ∧
    Governs catalogSettings "on_parse_error" (·.onParseError) (Item.asChoice policies) ∧
    Governs catalogSettings "parallel_extraction" (·.parallelExtraction) Item.asBoolean := by
  refine ⟨?_, ?_, ?_, ?_⟩ <;> constructor <;>
    simp [catalogSettings, Setting.writes_map, Setting.keeps_map]

/-- The key that governs the path of the collection. -/
lemma governs_collection : Governs collectionSettings "path" id (Item.asText pathName) := by
  constructor <;> simp [collectionSettings, Setting.Writes]

/-- The directory is governed by a key outside the groups. -/
lemma governs_codePath (start : Config) : Governs (settings start) "code_path" (·.codePath)
    (fun item => (item.asText pathName).map some) where
  known := by simp [settings]
  writes := by
    simp only [settings, List.forall_mem_cons]
    refine ⟨fun _ c item c' hset => ?_, by simp⟩
    obtain ⟨path, hpath, rfl⟩ := map_eq_ok_iff.mp hset
    exact congrArg (Except.map some) hpath
  keeps := by simp [settings, Setting.keeps_map]

/-- Each group is governed by the table under its name. -/
lemma governs_groups (start : Config) :
    Governs (settings start) "discovery" (·.discovery)
      (Item.asGroup "struct DiscoveryConfig" discoverySettings start.discovery) ∧
    Governs (settings start) "tokenizer" (·.tokenizer)
      (Item.asGroup "struct TokenizerConfig" tokenizerSettings start.tokenizer) ∧
    Governs (settings start) "catalog" (·.catalog)
      (Item.asGroup "struct CatalogConfig" catalogSettings start.catalog) ∧
    Governs (settings start) "collection" (·.collectionPath)
      (Item.asGroup "struct CollectionConfig" collectionSettings start.collectionPath) := by
  refine ⟨?_, ?_, ?_, ?_⟩ <;> constructor <;>
    simp [settings, Setting.writes_map, Setting.keeps_map]

end Config

end CodeCatalog
