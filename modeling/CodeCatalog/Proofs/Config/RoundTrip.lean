import CodeCatalog.Config.Load
import CodeCatalog.Proofs.Files.Writing
import CodeCatalog.Proofs.Text.Bytes
import CodeCatalog.Proofs.Toml.Documents

/-!
# Settings, written and read back

Settings that are written to a file are loaded from it as they were if they are valid, and refused
for the reason for which they are not valid otherwise, whatever characters their texts have.

## Main definitions

* `CodeCatalog.Config.statements` — the statements that settings are written as.
* `CodeCatalog.Toml.Sets` — the settings that expected entries lead to.

## Main results

* `CodeCatalog.Config.toList_toToml` — settings are written as their statements.
* `CodeCatalog.Config.ofToml_toToml` — the text of settings is read as the settings.
* `CodeCatalog.Config.fromFile_toToml` — a file with the text of settings is loaded as the settings.
-/

namespace CodeCatalog

namespace Toml

/-! ## Values of a known shape -/

variable {σ : Type} {item : Item}

/-- A text is read from its item. -/
lemma IsText.asText {s : String} (h : IsText s item) (expected : String) :
    item.asText expected = .ok s := by
  obtain ⟨span, rfl⟩ := h
  rfl

/-- A truth value is read from its item. -/
lemma IsBoolean.asBoolean {b : Bool} (h : IsBoolean b item) : item.asBoolean = .ok b := by
  obtain ⟨span, rfl⟩ := h
  rfl

/-- Texts are read from their items, one by one. -/
lemma textsOf_of_each {items : List Item} {ss : List String} (h : Each items (ss.map IsText)) :
    textsOf items = .ok ss := by
  induction ss generalizing items with
  | nil =>
    cases h
    rfl
  | cons s ss ih =>
    cases h with
    | cons hitem hitems => rw [textsOf, hitem.asText, ih hitems]; rfl

/-- A list of texts is read from its item. -/
lemma IsTexts.asTexts {ss : List String} (h : IsTexts ss item) : item.asTexts = .ok ss := by
  obtain ⟨span, items, rfl, hitems⟩ := h
  exact textsOf_of_each hitems

/-! ## Groups -/

/-- The settings that expected entries lead to, one after the other. -/
inductive Sets (settings : List (Setting σ)) : σ → Expected → σ → Prop
  | nil (s : σ) : Sets settings s [] s
  | cons {s s₁ s₂ : σ} {name : String} {P : Item → Prop} {ps : Expected} {setting : Setting σ}
      (hfind : settings.find? (·.name == name) = some setting)
      (hset : ∀ item, P item → setting.set s item = .ok s₁) (h : Sets settings s₁ ps s₂) :
      Sets settings s ((name, P) :: ps) s₂

/-- Entries that say what is expected set the settings. -/
lemma Sets.setByName {settings : List (Setting σ)} {s s' : σ} {ps : Expected}
    (h : Sets settings s ps s') {entries : List (Key × Item)} (hsay : Say entries ps) :
    setByName settings s entries = .ok s' := by
  induction h generalizing entries with
  | nil s =>
    cases hsay
    rfl
  | cons hfind hset h ih =>
    cases hsay with
    | @cons e _ entries _ hep hrest =>
      obtain ⟨hname, hitem⟩ := hep
      rw [Toml.setByName, hname, hfind]
      simp only [hset _ hitem]
      exact ih hrest

/-- The entries of a group set the settings of the group. -/
lemma Sets.asGroup {settings : List (Setting σ)} {s s' : σ} {ps : Expected}
    (h : Sets settings s ps s') (hitem : IsGroup ps item) (expected : String) :
    item.asGroup expected settings s = .ok s' := by
  obtain ⟨form, entries, rfl, hsay⟩ := hitem
  exact h.setByName hsay

end Toml

open Toml

namespace Config

/-! ## Settings as statements -/

/-- The entries of the settings for finding source files. -/
def discoveryRows (o : DiscoveryOptions) : List Statement := [
  .entry "extensions" (writeTexts o.extensions) (IsTexts o.extensions),
  .entry "exclude_patterns" (writeTexts o.excludePatterns) (IsTexts o.excludePatterns),
  .entry "respect_gitignore" (writeBoolean o.respectGitignore) (IsBoolean o.respectGitignore),
  .entry "follow_links" (writeBoolean o.followLinks) (IsBoolean o.followLinks)]

/-- The entries of the settings for counting tokens. -/
def tokenizerRows (o : TokenizerOptions) : List Statement := [
  .entry "model" (writeText o.model) (IsText o.model),
  .entry "allowed_special" (writeTexts o.allowedSpecial) (IsTexts o.allowedSpecial)]

/-- The entries of the settings for building catalogs. -/
def catalogRows (o : CatalogOptions) : List Statement := [
  .entry "output_path" (writeText o.outputPath) (IsText o.outputPath),
  .entry "pretty" (writeBoolean o.pretty) (IsBoolean o.pretty),
  .entry "on_parse_error" (writeText o.onParseError.label) (IsText o.onParseError.label),
  .entry "parallel_extraction" (writeBoolean o.parallelExtraction)
    (IsBoolean o.parallelExtraction)]

/-- The statements that settings are written as. -/
def statements (c : Config) : List Statement :=
  (match c.codePath with
    | some path => [.entry "code_path" (writeText path) (IsText path), .blank]
    | none => []) ++
  .header "discovery" :: discoveryRows c.discovery ++
  .blank :: .header "tokenizer" :: tokenizerRows c.tokenizer ++
  .blank :: .header "catalog" :: catalogRows c.catalog ++
  [.blank, .header "collection",
    .entry "path" (writeText c.collectionPath) (IsText c.collectionPath)]

/-- **Settings are written as their statements.** -/
lemma toList_toToml (c : Config) : c.toToml.toList = textOfAll c.statements := by
  have hintercalate (a b c d : String) :
      "\n".intercalate [a, b, c, d] = a ++ "\n" ++ b ++ "\n" ++ c ++ "\n" ++ d := rfl
  cases hpath : c.codePath <;>
    simp [toToml, statements, textOfAll, hpath, hintercalate, writeTable, Statement.text,
      discoveryRows, tokenizerRows, catalogRows, toString]

/-- What is expected of the groups of settings. -/
def expectedGroups (c : Config) : Expected := [
  ("discovery", IsGroup [
    ("extensions", IsTexts c.discovery.extensions),
    ("exclude_patterns", IsTexts c.discovery.excludePatterns),
    ("respect_gitignore", IsBoolean c.discovery.respectGitignore),
    ("follow_links", IsBoolean c.discovery.followLinks)]),
  ("tokenizer", IsGroup [
    ("model", IsText c.tokenizer.model),
    ("allowed_special", IsTexts c.tokenizer.allowedSpecial)]),
  ("catalog", IsGroup [
    ("output_path", IsText c.catalog.outputPath),
    ("pretty", IsBoolean c.catalog.pretty),
    ("on_parse_error", IsText c.catalog.onParseError.label),
    ("parallel_extraction", IsBoolean c.catalog.parallelExtraction)]),
  ("collection", IsGroup [("path", IsText c.collectionPath)])]

/-- What is expected of a table with the settings. -/
def expected (c : Config) : Expected :=
  match c.codePath with
  | some path => ("code_path", IsText path) :: c.expectedGroups
  | none => c.expectedGroups

/-- The statements of settings come to the entries that are expected of them. -/
lemma finished_statements (c : Config) :
    (Outline.afterAll {} c.statements).finished = c.expected := by
  unfold statements expected
  cases c.codePath <;> rfl

/-- The names of all settings and groups. -/
def names : List String := ["code_path", "discovery", "extensions", "exclude_patterns",
  "respect_gitignore", "follow_links", "tokenizer", "model", "allowed_special", "catalog",
  "output_path", "pretty", "on_parse_error", "parallel_extraction", "collection", "path"]

/-- The names of all settings are plain. -/
lemma isPlainName_of_mem : ∀ name ∈ names, IsPlainName name := by decide

/-- The statements of settings may follow each other: no name is given twice. -/
lemma takesAll_statements (c : Config) : Outline.TakesAll {} c.statements := by
  have hplain := isPlainName_of_mem
  simp only [names, List.forall_mem_cons] at hplain
  unfold statements discoveryRows tokenizerRows catalogRows
  cases c.codePath <;>
    simp [Outline.TakesAll, Outline.Takes, Outline.after, Outline.finished, Expected.names, hplain,
      readsBack_text, readsBack_boolean, readsBack_texts]

/-! ## Reading settings back -/

/-- The entries for discovery set its settings. -/
lemma sets_discovery (start o : DiscoveryOptions) : Sets discoverySettings start [
    ("extensions", IsTexts o.extensions), ("exclude_patterns", IsTexts o.excludePatterns),
    ("respect_gitignore", IsBoolean o.respectGitignore),
    ("follow_links", IsBoolean o.followLinks)] o :=
  .cons rfl (fun _ h => congrArg (Except.map _) h.asTexts) <|
    .cons rfl (fun _ h => congrArg (Except.map _) h.asTexts) <|
    .cons rfl (fun _ h => congrArg (Except.map _) h.asBoolean) <|
    .cons rfl (fun _ h => congrArg (Except.map _) h.asBoolean) (.nil _)

/-- The entries for the tokenizer set its settings. -/
lemma sets_tokenizer (start o : TokenizerOptions) : Sets tokenizerSettings start [
    ("model", IsText o.model), ("allowed_special", IsTexts o.allowedSpecial)] o :=
  .cons rfl (fun _ h => congrArg (Except.map _) (h.asText _)) <|
    .cons rfl (fun _ h => congrArg (Except.map _) h.asTexts) (.nil _)

/-- A policy is read from its name. -/
lemma asChoice_policies {item : Item} {policy : ParseErrorPolicy} (h : IsText policy.label item) :
    item.asChoice policies = .ok policy := by
  obtain ⟨span, rfl⟩ := h
  cases policy <;> rfl

/-- The entries for the catalog set its settings. -/
lemma sets_catalog (start o : CatalogOptions) : Sets catalogSettings start [
    ("output_path", IsText o.outputPath), ("pretty", IsBoolean o.pretty),
    ("on_parse_error", IsText o.onParseError.label),
    ("parallel_extraction", IsBoolean o.parallelExtraction)] o :=
  .cons rfl (fun _ h => congrArg (Except.map _) (h.asText _)) <|
    .cons rfl (fun _ h => congrArg (Except.map _) h.asBoolean) <|
    .cons rfl (fun _ h => congrArg (Except.map _) (asChoice_policies h)) <|
    .cons rfl (fun _ h => congrArg (Except.map _) h.asBoolean) (.nil _)

/-- The entry for the collection sets its path. -/
lemma sets_collection (start path : String) :
    Sets collectionSettings start [("path", IsText path)] path :=
  .cons rfl (fun _ h => h.asText _) (.nil _)

/-- Whatever the settings are at first, all groups of them are set. -/
lemma sets_groups (start c : Config) :
    Sets (settings start) { start with codePath := c.codePath } c.expectedGroups c :=
  .cons rfl (fun _ h => congrArg (Except.map _) ((sets_discovery _ c.discovery).asGroup h _)) <|
    .cons rfl (fun _ h => congrArg (Except.map _) ((sets_tokenizer _ c.tokenizer).asGroup h _)) <|
    .cons rfl (fun _ h => congrArg (Except.map _) ((sets_catalog _ c.catalog).asGroup h _)) <|
    .cons rfl (fun _ h =>
      congrArg (Except.map _) ((sets_collection _ c.collectionPath).asGroup h _)) (.nil c)

/-- What is expected of the text of settings sets these settings. -/
lemma sets_expected {start : Config} (hstart : start.codePath = none) (c : Config) :
    Sets (settings start) start c.expected c := by
  have hgroups := sets_groups start c
  unfold expected
  cases hpath : c.codePath with
  | none => rwa [hpath, ← hstart] at hgroups
  | some path =>
    rw [hpath] at hgroups
    exact .cons rfl (fun _ h => congrArg (Except.map _) (h.asText _)) hgroups

/-- **The text of settings is read as the settings.** -/
lemma ofToml_toToml {start : Config} (hstart : start.codePath = none) (c : Config) :
    ofToml start c.toToml = .ok c := by
  obtain ⟨t, hread, hsay⟩ := readTable_statements c.takesAll_statements c.toList_toToml
  rw [finished_statements] at hsay
  simp only [ofToml, hread, (sets_expected hstart c).setByName hsay]

/-- What is wrong with settings is that some value is not valid. -/
lemma validate_eq_error {c : Config} {e : ConfigError} (h : c.validate = .error e) :
    ∃ key reason, e = .invalidValue key reason := by
  unfold validate at h
  split at h
  · exact ⟨_, _, (Except.error.inj h).symm⟩
  · split at h
    · exact ⟨_, _, (Except.error.inj h).symm⟩
    · split at h
      · exact ⟨_, _, (Except.error.inj h).symm⟩
      · split at h
        · exact ⟨_, _, (Except.error.inj h).symm⟩
        · cases h

/-- A file with the bytes of a text is there and has this text. -/
lemma readText_of_read {fs : FileSystem} {path text : String} (h : fs.read path = .ok text.toUTF8) :
    fs.exists? path = true ∧ fs.readText path = .ok text := by
  refine ⟨?_, by simp only [FileSystem.readText, h, Text.fromUTF8?_toUTF8]⟩
  unfold FileSystem.read at h
  unfold FileSystem.exists?
  cases hentry : fs.entry path with
  | error e =>
    rw [hentry] at h
    cases h
  | ok entry => rfl

/-- A file with the text of settings gives these settings if they are valid. -/
lemma fromFile_of_read {fs : FileSystem} {path : String} {c : Config}
    (h : fs.read path = .ok c.toToml.toUTF8) (env : Environment) :
    fromFile fs env path = c.validate.map fun () => c := by
  obtain ⟨hexists, htext⟩ := readText_of_read h
  have hread : ofToml (default env) c.toToml = .ok c := ofToml_toToml rfl c
  simp only [fromFile, hexists, htext, parse, hread]
  rfl

/-- **Settings that are written are loaded again.** A file with the text of settings, wherever it is
and whatever the environment says, is loaded as exactly these settings if they are valid. If they
are not, it is refused for the same invalid value.

**Proof sketch.** The text is that of the statements of the settings (`toList_toToml`), which are
read back one by one (`Toml.readTable_statements`); the entries then set every setting to what it
was (`sets_expected`), and what was read is checked as the settings are. -/
theorem fromFile_toToml {fs : FileSystem} {path : String} {c : Config}
    (h : fs.read path = .ok c.toToml.toUTF8) (env : Environment) :
    (c.validate = .ok () → fromFile fs env path = .ok c) ∧
      ∀ e, c.validate = .error e →
        fromFile fs env path = .error e ∧ ∃ key reason, e = .invalidValue key reason := by
  rw [fromFile_of_read h]
  refine ⟨fun hvalid => by rw [hvalid]; rfl, fun e hinvalid => ?_⟩
  rw [hinvalid]
  exact ⟨rfl, validate_eq_error hinvalid⟩

/-! ### Awkward settings -/

/-- Settings with quotes of both kinds in rows, backslashes, line ends and controls. -/
def awkward : Config where
  codePath := some "C:\\new\n\"\"\"\"\"\"x'''\r"
  discovery := ⟨["py", "\"\"\"\"", "''", "\u2028'\t"], [], true, false⟩
  tokenizer := ⟨"'\"'\n", ["", "\x00\x7f", "a\"\"\""]⟩
  catalog := ⟨"''\n''", false, .skip, true⟩
  collectionPath := ""

/-- A directory in which only the file of the settings is. -/
def onlySettings (text : String) : FileSystem := ⟨.dir [("config.toml", .file text.toUTF8)], []⟩

/-- The settings file is there. -/
lemma fileAt_onlySettings (text : String) :
    (onlySettings text).FileAt "config.toml" ["config.toml"] text.toUTF8 := by
  have hroot : (onlySettings text).root.at? [] = some (onlySettings text).root := Entry.at?_nil _
  have hfile : (onlySettings text).root.at? ["config.toml"] = some (.file text.toUTF8) := rfl
  refine ⟨FileSystem.spot_eq_ok_iff.mpr ⟨by decide, ?_⟩, hfile⟩
  exact .enter hroot ⟨by decide, by decide, rfl, by decide⟩ hfile nofun (.done _ _)

/-- The settings file can be read. -/
lemma read_onlySettings (text : String) :
    (onlySettings text).read "config.toml" = .ok text.toUTF8 :=
  (fileAt_onlySettings text).read

/-- The settings are loaded as they are; without an output path they are refused. -/
theorem fromFile_toToml_awkward :
    (onlySettings awkward.toToml).read "config.toml" = .ok awkward.toToml.toUTF8 ∧
    awkward.validate = .ok () ∧
    fromFile (onlySettings awkward.toToml) ⟨[]⟩ "config.toml" = .ok awkward ∧
    fromFile (onlySettings { awkward with catalog := ⟨"", true, .abort, false⟩ }.toToml) ⟨[]⟩
      "config.toml" = .error (.invalidValue "catalog.output_path" "must not be empty") := by
  have hvalid : awkward.validate = .ok () := by decide
  have hinvalid : { awkward with catalog := ⟨"", true, .abort, false⟩ }.validate =
      .error (.invalidValue "catalog.output_path" "must not be empty") := by decide
  exact ⟨read_onlySettings _, hvalid, (fromFile_toToml (read_onlySettings _) ⟨[]⟩).1 hvalid,
    ((fromFile_toToml (read_onlySettings _) ⟨[]⟩).2 _ hinvalid).1⟩

end Config

end CodeCatalog
