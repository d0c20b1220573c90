import CodeCatalog.Proofs.Cli.Artifacts
import CodeCatalog.Proofs.Config.RoundTrip
import CodeCatalog.Proofs.Config.Tables

/-!
# Which settings are in force

A setting may be given on the command line, by a variable of the environment, or in the settings
file, and it has a value when nothing is said. A build goes by the first of these that is given,
setting by setting, whichever of the others are there.

## Main definitions

* `CodeCatalog.Cli.inForce` — the first that is given, setting by setting.

## Main results

* `CodeCatalog.Cli.eq_inForce` — the settings of a table, with nothing else given.
* `CodeCatalog.Cli.apply_override_inForce` — variables and flags take their places before it.
* `CodeCatalog.Cli.startInvocation_build` — what a build is started with.
-/

namespace CodeCatalog

open Toml

namespace Cli

/-! ## The first that is given -/

/-- The first value that is given, or the one when nothing is said. -/
def firstGiven {α : Type} (given : List (Option α)) (otherwise : α) : α :=
  (given.findSome? id).getD otherwise

/-- Where nothing is given, the value is the one when nothing is said. -/
@[simp] lemma firstGiven_nil {α : Type} (otherwise : α) : firstGiven [] otherwise = otherwise := rfl

/-- The first value counts if it is given. -/
@[simp] lemma firstGiven_cons {α : Type} (a : Option α) (given : List (Option α)) (otherwise : α) :
    firstGiven (a :: given) otherwise = a.getD (firstGiven given otherwise) := by
  cases a <;> rfl

/-- The value of a variable, if some character of it is not blank. -/
def nonBlank (lookup : String → Option String) (name : String) : Option String :=
  (lookup name).filter fun value => value.toList.any fun c => !Text.isBlank c

/-- The policy with a name. -/
def policyNamed (name : String) : Option ParseErrorPolicy :=
  if name = "abort" then some .abort else if name = "skip" then some .skip else none

/-- The settings that a build is to go by: of what the command line, the variables and the table of
the settings file give, in this order, the first, and else what holds when nothing is said. -/
def inForce (flags : BuildFlags) (lookup : String → Option String) (t : Table)
    (collection : String) : Config where
  codePath := (nonBlank lookup "CODESEER_CODE_PATH").or (t.text? "code_path")
  discovery := {
    extensions := firstGiven [(t.group "discovery").texts? "extensions"] ["py"]
    excludePatterns := firstGiven [(t.group "discovery").texts? "exclude_patterns"] []
    respectGitignore := firstGiven [(t.group "discovery").boolean? "respect_gitignore"] false
    followLinks := firstGiven [(t.group "discovery").boolean? "follow_links"] false }
  tokenizer := {
    model := firstGiven [flags.model, nonBlank lookup "CODESEER_MODEL",
      (t.group "tokenizer").text? "model"] "gpt-4"
    allowedSpecial := firstGiven [(t.group "tokenizer").texts? "allowed_special"]
      ["<|endoftext|>"] }
  catalog := {
    outputPath := firstGiven [flags.output, nonBlank lookup "CODESEER_OUTPUT",
      (t.group "catalog").text? "output_path"] "code_data.json"
    pretty := firstGiven [if flags.compact then some false else none,
      (t.group "catalog").boolean? "pretty"] true
    onParseError := firstGiven [if flags.skipParseErrors then some .skip else none,
      (nonBlank lookup "CODESEER_ON_PARSE_ERROR").bind fun value =>
        (ParseErrorPolicy.ofString value).toOption,
      ((t.group "catalog").get? "on_parse_error").bind (Item.choice? policyNamed)] .abort
    parallelExtraction := firstGiven [if flags.parallel then some true else none,
      (t.group "catalog").boolean? "parallel_extraction"] false }
  collectionPath := firstGiven [(t.group "collection").text? "path"] collection

variable {t : Table} {c : Config}

/-- A variable counts unless it is blank. -/
lemma setting_eq_nonBlank (lookup : String → Option String) (name : String) :
    Config.setting lookup name = nonBlank lookup name := by
  have hblank (value : String) :
      (!(Text.trim value).isEmpty) = value.toList.any fun c => !Text.isBlank c := by
    rw [Bool.eq_iff_iff, Bool.not_eq_true', Bool.eq_false_iff, Ne, Text.trim_isEmpty_iff]
    simp
  simp only [Config.setting, nonBlank, hblank]

/-- The two policies are looked up by their names. -/
lemma lookup_policies (name : String) : Config.policies.lookup name = policyNamed name := by
  unfold policyNamed
  by_cases habort : name = "abort"
  · subst habort
    rfl
  · by_cases hskip : name = "skip"
    · subst hskip
      rfl
    · simp [Config.policies, List.lookup_cons, ParseErrorPolicy.label, habort, hskip,
        beq_eq_false_iff_ne.mpr habort, beq_eq_false_iff_ne.mpr hskip]

/-! ## The settings of a table -/

/-- The settings of discovery that a table gives. -/
lemma discovery_of_setByName {o : DiscoveryOptions} (ht : t.Distinct)
    (h : setByName Config.discoverySettings .default t.entries = .ok o) :
    o = {
      extensions := firstGiven [t.texts? "extensions"] ["py"]
      excludePatterns := firstGiven [t.texts? "exclude_patterns"] []
      respectGitignore := firstGiven [t.boolean? "respect_gitignore"] false
      followLinks := firstGiven [t.boolean? "follow_links"] false } := by
  obtain ⟨hextensions, hpatterns, hignore, hlinks⟩ := Config.governs_discovery
  have h₁ := hextensions.eq_getD Item.texts?_of_asTexts ht h
  have h₂ := hpatterns.eq_getD Item.texts?_of_asTexts ht h
  have h₃ := hignore.eq_getD Item.boolean?_of_asBoolean ht h
  have h₄ := hlinks.eq_getD Item.boolean?_of_asBoolean ht h
  obtain ⟨extensions, patterns, ignore, links⟩ := o
  simp only at h₁ h₂ h₃ h₄
  simp only [h₁, h₂, h₃, h₄, firstGiven_cons, firstGiven_nil]
  rfl

/-- The settings of the tokenizer that a table gives. -/
lemma tokenizer_of_setByName {o : TokenizerOptions} (ht : t.Distinct)
    (h : setByName Config.tokenizerSettings .default t.entries = .ok o) :
    o = {
      model := firstGiven [t.text? "model"] "gpt-4"
      allowedSpecial := firstGiven [t.texts? "allowed_special"] ["<|endoftext|>"] } := by
  obtain ⟨hmodel, hspecial⟩ := Config.governs_tokenizer
  have h₁ := hmodel.eq_getD Item.text?_of_asText ht h
  have h₂ := hspecial.eq_getD Item.texts?_of_asTexts ht h
  obtain ⟨model, special⟩ := o
  simp only at h₁ h₂
  simp only [h₁, h₂, firstGiven_cons, firstGiven_nil]
  rfl

/-- A policy that is read is the one with this name. -/
lemma choice?_of_asChoice_policies {item : Item} {policy : ParseErrorPolicy}
    (h : item.asChoice Config.policies = .ok policy) : item.choice? policyNamed = some policy := by
  rw [← funext lookup_policies]
  exact Item.choice?_of_asChoice h

/-- The settings of the catalog that a table gives. -/
lemma catalog_of_setByName {o : CatalogOptions} (ht : t.Distinct)
    (h : setByName Config.catalogSettings .default t.entries = .ok o) :
    o = {
      outputPath := firstGiven [t.text? "output_path"] "code_data.json"
      pretty := firstGiven [t.boolean? "pretty"] true
      onParseError := firstGiven [(t.get? "on_parse_error").bind (Item.choice? policyNamed)] .abort
      parallelExtraction := firstGiven [t.boolean? "parallel_extraction"] false } := by
  obtain ⟨hpath, hpretty, hpolicy, hparallel⟩ := Config.governs_catalog
  have h₁ := hpath.eq_getD Item.text?_of_asText ht h
  have h₂ := hpretty.eq_getD Item.boolean?_of_asBoolean ht h
  have h₃ := hpolicy.eq_getD choice?_of_asChoice_policies ht h
  have h₄ := hparallel.eq_getD Item.boolean?_of_asBoolean ht h
  obtain ⟨path, pretty, policy, parallel⟩ := o
  simp only at h₁ h₂ h₃ h₄
  simp only [h₁, h₂, h₃, h₄, firstGiven_cons, firstGiven_nil]
  rfl

/-- The path of the collection that a table gives. -/
lemma collection_of_setByName {start path : String} (ht : t.Distinct)
    (h : setByName Config.collectionSettings start t.entries = .ok path) :
    path = firstGiven [t.text? "path"] start := by
  rw [firstGiven_cons, firstGiven_nil]
  exact Config.governs_collection.eq_getD Item.text?_of_asText ht h

/-- **The settings of a table**, when nothing else is given. -/
lemma eq_inForce {env : Environment} (ht : t.Distinct) (hsectioned : t.Sectioned)
    (h : setByName (Config.settings (.default env)) (.default env) t.entries = .ok c) :
    c = inForce {} (fun _ => none) t (Locations.collectionFile env) := by
  obtain ⟨hdiscovery, htokenizer, hcatalog, hcollection⟩ := Config.governs_groups (.default env)
  have h₁ := (Config.governs_codePath (.default env)).of_setByName ht h
  have h₂ := hdiscovery.group ht (fun _ => hsectioned.table (by decide)) h
  have h₃ := htokenizer.group ht (fun _ => hsectioned.table (by decide)) h
  have h₄ := hcatalog.group ht (fun _ => hsectioned.table (by decide)) h
  have h₅ := hcollection.group ht (fun _ => hsectioned.table (by decide)) h
  have hcodePath : c.codePath = t.text? "code_path" := by
    unfold Table.text?
    cases hget : t.get? "code_path" with
    | none =>
      rw [hget] at h₁
      exact h₁
    | some item =>
      rw [hget] at h₁
      obtain ⟨path, hpath, hsome⟩ := map_eq_ok_iff.mp h₁
      rw [Option.bind_some, Item.text?_of_asText hpath]
      exact hsome.symm
  obtain ⟨codePath, discovery, tokenizer, catalog, collectionPath⟩ := c
  simp only at hcodePath h₂ h₃ h₄ h₅
  rw [hcodePath, discovery_of_setByName (ht.group _) h₂, tokenizer_of_setByName (ht.group _) h₃,
    catalog_of_setByName (ht.group _) h₄, collection_of_setByName (ht.group _) h₅]
  rfl

/-- **Variables and flags take their places** before what a table gives. -/
lemma apply_override_inForce (flags : BuildFlags) (lookup : String → Option String) (t : Table)
    (collection : String) :
    flags.apply ((inForce {} (fun _ => none) t collection).override lookup) =
      inForce flags lookup t collection := by
  have hpretty (b : Bool) : (b && !flags.compact) =
      (if flags.compact then some false else none).getD b := by
    cases flags.compact <;> simp
  have hparallel (b : Bool) : (b || flags.parallel) =
      (if flags.parallel then some true else none).getD b := by
    cases flags.parallel <;> simp
  have hpolicy (p : ParseErrorPolicy) : (if flags.skipParseErrors then .skip else p) =
      (if flags.skipParseErrors then some ParseErrorPolicy.skip else none).getD p := by
    cases flags.skipParseErrors <;> rfl
  simp only [BuildFlags.apply, Config.override, Config.policySetting, setting_eq_nonBlank, hpretty,
    hparallel, hpolicy]
  simp [inForce, nonBlank]

/-! ## Builds -/

/-- A group that is not there, one without entries and one with other keys only: they give nothing
for a key. -/
lemma get?_group_eq_none {group key : String} (h : ∀ form entries,
      t.get? group = some (.table form entries) → ∀ e ∈ entries, e.1.name ≠ key) :
    (t.group group).get? key = none := by
  unfold Table.group
  split
  · rename_i form entries hget
    rw [Table.get?_eq_none_iff]
    intro hmem
    obtain ⟨e, he, hname⟩ := List.mem_map.mp hmem
    exact h form entries hget e he hname
  · rfl

/-- **Every setting of a build is the first that is given** on the command line, by a variable that
is not blank, in the settings file, or when nothing is said; a policy that a variable does not spell
right does not count.

If the settings file is loaded, or none is there, then a build checks the settings in force and goes
by them. It is about the directory of the command line, or of the variable, or of the settings
file, or else the one that the user is asked for. A group of settings that is not there, one without
entries and one with other keys only give nothing for a key, so the setting is the same for all.

**Proof sketch.** The settings of the file are those of its table
(`Config.setByName_of_loadOrDefault`), in which every key stands once, so each setting depends on
its own entry only (`eq_inForce`). Variables and flags take their places before these
(`apply_override_inForce`), and the variables alone leave the settings valid
(`Config.validate_override`), so the build is started. -/
theorem startInvocation_build (edition : Edition) {fs : FileSystem} {env : Environment}
    {configPath : Option String}
    (ht : Config.TableOf fs (Config.settingsFile? fs env configPath) t) (hsectioned : t.Sectioned)
    (hload : Config.loadOrDefault fs env configPath = .ok c) (flags : BuildFlags) :
    (startInvocation edition fs env ⟨configPath, .build flags⟩ =
      let config := inForce flags env.get? t (Locations.collectionFile env)
      match config.validate with
      | .error e => .over (failed fs (Error.config e).chain)
      | .ok () =>
        match flags.directory.or ((nonBlank env.get? "CODESEER_CODE_PATH").or
          (t.text? "code_path")) with
        | some directory => .over (buildDirectory edition fs env config directory)
        | none => .question directoryPrompt fun line =>
            buildDirectory edition fs env config (Text.trim line)) ∧
    ∀ group key, (∀ form entries, t.get? group = some (.table form entries) →
      ∀ e ∈ entries, e.1.name ≠ key) → (t.group group).get? key = none := by
  refine ⟨?_, fun group key => get?_group_eq_none⟩
  obtain ⟨hset, hvalid⟩ := Config.setByName_of_loadOrDefault ht hload
  have hconfig : flags.apply (c.override env.get?) =
      inForce flags env.get? t (Locations.collectionFile env) := by
    rw [eq_inForce ht.distinct hsectioned hset, apply_override_inForce]
  have hloaded : Config.load fs env configPath = .ok (c.override env.get?) := by
    simp only [Config.load, hload, Config.validate_override hvalid]
    rfl
  simp only [startInvocation, hloaded, startCommand, startBuild, hconfig]
  rfl

/-! ### A settings file with few settings -/

/-- A settings file with a key that nobody knows, a group without entries and one with some. -/
def fewSettings : String := "\n".intercalate [
  "code_path = 'lib'", "colour = 'red'", "[tokenizer]", "[catalog]", "pretty = true",
  "on_parse_error = 'skip'", "output_path = 'file.json'"]

/-- A directory with this settings file only. -/
def fewFiles : FileSystem := Config.onlySettings fewSettings

/-- Variables for a directory, which is blank, a model, an output and a policy, which is none. -/
def fewVariables : Environment := ⟨[("CODESEER_CODE_PATH", " \t"), ("CODESEER_MODEL", "gpt-4o"),
  ("CODESEER_OUTPUT", "variable.json"), ("CODESEER_ON_PARSE_ERROR", "loud")]⟩

/-- The flags for an output and for a catalog without indentation. -/
def fewFlags : BuildFlags := { output := some "flag.json", compact := true }

/-- The settings of the file alone. -/
def fileSettings : Config :=
  { Config.default fewVariables with
    codePath := some "lib"
    catalog := ⟨"file.json", true, .skip, false⟩ }

/-- What is in force: the output and the indentation of the flags, the model of the variable,
the directory and the policy of the file. -/
def mixedSettings : Config :=
  { Config.default fewVariables with
    codePath := some "lib"
    tokenizer := ⟨"gpt-4o", ["<|endoftext|>"]⟩
    catalog := ⟨"flag.json", false, .skip, false⟩ }

/-- The text of the settings file, its table and what is in force with it. -/
lemma readTable_fewSettings : ∃ t, readTable fewSettings = .ok t ∧ t.Sectioned ∧
    t.text? "code_path" = some "lib" ∧
    inForce fewFlags fewVariables.get? t (Locations.collectionFile fewVariables) =
      mixedSettings := by
  have hread : (readTable fewSettings).toOption.map (fun t => (decide t.Sectioned,
      t.text? "code_path", inForce fewFlags fewVariables.get? t
        (Locations.collectionFile fewVariables))) = some (true, some "lib", mixedSettings) := by
    decide +kernel
  obtain ⟨t, ht, hvalues⟩ := Option.map_eq_some_iff.mp hread
  simp only [Prod.mk.injEq, decide_eq_true_eq] at hvalues
  refine ⟨t, ?_, hvalues⟩
  cases hread : readTable fewSettings with
  | error e =>
    rw [hread] at ht
    cases ht
  | ok t' =>
    rw [hread] at ht
    exact congrArg Except.ok (Option.some.inj ht)

/-- The settings file is loaded, and the build is about the directory of the file and goes by the
settings in force. -/
theorem startInvocation_build_fewSettings :
    (∃ t c,
      Config.TableOf fewFiles (Config.settingsFile? fewFiles fewVariables (some "config.toml")) t ∧
      t.Sectioned ∧ Config.loadOrDefault fewFiles fewVariables (some "config.toml") = .ok c) ∧
    startInvocation primerEdition fewFiles fewVariables ⟨some "config.toml", .build fewFlags⟩ =
      .over (buildDirectory primerEdition fewFiles fewVariables mixedSettings "lib") := by
  obtain ⟨t, hread, hsectioned, hcodePath, hinForce⟩ := readTable_fewSettings
  obtain ⟨hexists, htext⟩ : fewFiles.exists? "config.toml" = true ∧
      fewFiles.readText "config.toml" = .ok fewSettings :=
    Config.readText_of_read (Config.read_onlySettings fewSettings)
  have htable : Config.TableOf fewFiles
      (Config.settingsFile? fewFiles fewVariables (some "config.toml")) t :=
    ⟨fewSettings, htext, hread⟩
  have hload : Config.loadOrDefault fewFiles fewVariables (some "config.toml") =
      .ok fileSettings := by
    have hparse : Config.parse fewVariables fewSettings = .ok fileSettings := by decide +kernel
    simp only [Config.loadOrDefault, Config.fromFile, hexists, htext, hparse]
    rfl
  have hvalid : mixedSettings.validate = .ok () := by decide
  have hblank : nonBlank fewVariables.get? "CODESEER_CODE_PATH" = none := by decide
  refine ⟨⟨t, fileSettings, htable, hsectioned, hload⟩, ?_⟩
  rw [(startInvocation_build primerEdition htable hsectioned hload fewFlags).1]
  simp only [hinForce, hvalid, hblank, hcodePath]
  rfl

end Cli

end CodeCatalog
