import CodeCatalog.Proofs.Cli.Artifacts
import CodeCatalog.Proofs.Config.Overrides
import CodeCatalog.Proofs.Config.RoundTrip

/-!
# Writing a settings file

A user who has no settings file yet can have one written with the settings when nothing is said. The
file that is there is replaced only if the user insists. But settings are loaded before any command
is looked at, this one included: a file that the command line names has to be there, and one that is
to be replaced has to be valid.

## Main definitions

* `CodeCatalog.Config.settingsPath` — the settings file to use.

## Main results

* `CodeCatalog.Config.save_of_canBeWritten` — settings are saved where texts can be stored.
* `CodeCatalog.Config.exists_load_iff` — when settings are loaded.
* `CodeCatalog.Cli.run_init` — when a settings file is written, and what it holds.
-/

namespace CodeCatalog

namespace FileSystem

/-- Nothing is there where a name is free. -/
lemma exists?_of_vacant {fs : FileSystem} {path name : String} {place : List String}
    (hspot : fs.spot false path = .ok (.vacant place name)) : fs.exists? path = false := by
  simp only [exists?, entry, resolve, hspot, Except.toBool]

end FileSystem

/-! ## Settings files -/

namespace Config

variable {fs : FileSystem} {env : Environment} {path : String}

/-- The text of settings is not empty. -/
lemma isEmpty_toToml (c : Config) : c.toToml.toUTF8.isEmpty = false := by
  apply Text.isEmpty_toUTF8
  simp [toToml, Toml.writeTable]

/-- **Settings are saved** where texts can be stored, and are there afterwards. -/
lemma save_of_canBeWritten (h : fs.CanBeWritten path) (c : Config) :
    ∃ fs', c.save fs path = (fs', .ok ()) ∧ fs'.read path = .ok c.toToml.toUTF8 := by
  obtain ⟨fs₁, fs₂, hparents, hwrite⟩ := h c.toToml.toUTF8
  refine ⟨fs₂, ?_, FileSystem.read_of_write hwrite c.isEmpty_toToml⟩
  simp only [save, hparents, hwrite]

/-- Only a file that is there is loaded. -/
lemma exists?_of_fromFile {c : Config} (h : fromFile fs env path = .ok c) :
    fs.exists? path = true := by
  unfold fromFile at h
  split at h
  · cases h
  · rename_i hthere
    simpa using hthere

/-- The settings file to use: the given one, or the one at the usual place. -/
def settingsPath (env : Environment) (configPath : Option String) : String :=
  configPath.getD (Locations.configFile env)

/-- **When settings are loaded**: a file that is given is there, and a file that is there is a valid
settings file. -/
lemma exists_load_iff (fs : FileSystem) (env : Environment) (configPath : Option String) :
    (∃ c, load fs env configPath = .ok c) ↔
      (configPath ≠ none → fs.exists? (settingsPath env configPath) = true) ∧
      (fs.exists? (settingsPath env configPath) = true →
        ∃ c, fromFile fs env (settingsPath env configPath) = .ok c) := by
  have hload : (∃ c, load fs env configPath = .ok c) ↔
      ∃ c, loadOrDefault fs env configPath = .ok c := by
    simp only [load_eq_map, Toml.map_eq_ok_iff]
    constructor
    · rintro ⟨_, c, hc, -⟩
      exact ⟨c, hc⟩
    · rintro ⟨c, hc⟩
      exact ⟨_, c, hc, rfl⟩
  rw [hload]
  cases configPath with
  | some path =>
    simp only [loadOrDefault, settingsPath, Option.getD_some]
    constructor
    · rintro ⟨c, hfile⟩
      exact ⟨fun _ => exists?_of_fromFile hfile, fun _ => ⟨c, hfile⟩⟩
    · rintro ⟨hgiven, hvalid⟩
      exact hvalid (hgiven (Option.some_ne_none path))
  | none =>
    simp only [loadOrDefault, settingsPath, Option.getD_none]
    split
    · rename_i hthere
      exact ⟨fun h => ⟨fun hgiven => absurd rfl hgiven, fun _ => h⟩, fun h => h.2 hthere⟩
    · rename_i hthere
      exact iff_of_true ⟨_, rfl⟩ ⟨fun hgiven => absurd rfl hgiven, fun h => absurd h hthere⟩

end Config

namespace Cli

open Config (settingsPath)

variable {edition : Edition} {fs : FileSystem} {env : Environment} {words : List String}
  {configPath : Option String} {force : Bool}

/-- A failure is no success. -/
lemma Ending.failure_ne_success (chain : List String) : Ending.failure chain ≠ .success := by
  intro h
  cases h

/-- How writing a settings file goes on once settings have been loaded. -/
lemma manageConfig_init (env : Environment) (config : Config) {path : String}
    (hwrite : fs.CanBeWritten path) (force : Bool) :
    (fs.exists? path = true ∧ force = false ∧
      FailsCleanly fs (manageConfig fs env config path (.init true force))) ∨
    ((fs.exists? path = false ∨ force = true) ∧
      (manageConfig fs env config path (.init true force)).ending = .success ∧
      (manageConfig fs env config path (.init true force)).files.read path =
        .ok (Config.default env).toToml.toUTF8) := by
  by_cases hrefused : (fs.exists? path && !force) = true
  · simp only [manageConfig, hrefused, if_true]
    rw [Bool.and_eq_true, Bool.not_eq_true'] at hrefused
    exact .inl ⟨hrefused.1, hrefused.2, failsCleanly_failed fs _⟩
  · obtain ⟨fs', hsave, hread⟩ := Config.save_of_canBeWritten hwrite (Config.default env)
    simp only [manageConfig, hrefused, hsave]
    refine .inr ⟨?_, rfl, hread⟩
    simpa [or_iff_not_imp_left] using hrefused

/-- **When a settings file is written.** Let the settings file of a session be one that can be
written. Writing it succeeds exactly if it is not there yet or the user insists, and besides a file
that the command line names is there and one that is there is valid. Afterwards it is loaded as the
settings when nothing is said; a session that fails leaves the file system as it was. -/
theorem run_init
    (hwords : Request.ofWords words = .run ⟨configPath, .config (.init true force)⟩)
    (hwrite : fs.CanBeWritten (settingsPath env configPath)) (input : String) :
    ((run edition fs env words input).ending = .success ↔
      (fs.exists? (settingsPath env configPath) = false ∨ force = true) ∧
      (configPath ≠ none → fs.exists? (settingsPath env configPath) = true) ∧
      (fs.exists? (settingsPath env configPath) = true →
        ∃ c, Config.fromFile fs env (settingsPath env configPath) = .ok c)) ∧
    ((run edition fs env words input).ending = .success →
      Config.fromFile (run edition fs env words input).files env (settingsPath env configPath) =
        .ok (Config.default env)) ∧
    ((run edition fs env words input).ending ≠ .success →
      (run edition fs env words input).files = fs) := by
  rw [← Config.exists_load_iff fs env configPath]
  obtain ⟨hfiles, hending⟩ := run_eq_answer edition fs env words input
  rw [hfiles, hending]
  simp only [start, hwords, startInvocation]
  -- the file that is to be written or replaced is loaded before the command is looked at
  cases hload : Config.load fs env configPath with
  | error e =>
    have hfailure :=
      Ending.failure_ne_success ("Failed to load configuration" :: (Error.config e).chain)
    refine ⟨iff_of_false hfailure ?_, fun hsuccess => absurd hsuccess hfailure, fun _ => rfl⟩
    rintro ⟨-, c, hc⟩
    cases hc
  | ok config =>
    simp only [startCommand, Session.answer]
    rw [← settingsPath]
    obtain ⟨hthere, hforce, hclean, chain, hfailure⟩ | ⟨hallowed, hsuccess, hread⟩ :=
      manageConfig_init env config hwrite force
    · rw [hfailure]
      have hne := Ending.failure_ne_success chain
      refine ⟨iff_of_false hne ?_, fun hsuccess => absurd hsuccess hne, fun _ => hclean⟩
      rintro ⟨habsent | hinsists, -⟩
      · rw [hthere] at habsent
        cases habsent
      · rw [hforce] at hinsists
        cases hinsists
    · refine ⟨iff_of_true hsuccess ⟨hallowed, config, rfl⟩, fun _ => ?_,
        fun hfailure => absurd hsuccess hfailure⟩
      rw [Config.fromFile_of_read hread env, Config.validate_default]
      rfl

/-! ### A directory with a settings file -/

/-- A command line that writes a settings file. -/
def initWords (path : String) : List String := ["--config", path, "config", "init", "--write"]

/-- What the words ask for, with and without the flag that insists. -/
lemma ofWords_initWords :
    Request.ofWords (initWords "new.toml") =
      .run ⟨some "new.toml", .config (.init true false)⟩ ∧
    Request.ofWords (initWords "config.toml" ++ ["--force"]) =
      .run ⟨some "config.toml", .config (.init true true)⟩ := by
  constructor <;> decide

/-- The settings file and a new file beside it can be written. -/
lemma canBeWritten_onlySettings (text : String) :
    (Config.onlySettings text).CanBeWritten "config.toml" ∧
      (Config.onlySettings text).CanBeWritten "new.toml" ∧
      (Config.onlySettings text).exists? "new.toml" = false := by
  have hnew (writing : Bool) :
      (Config.onlySettings text).spot writing "new.toml" = .ok (.vacant [] "new.toml") := by
    have hroot : (Config.onlySettings text).root.at? [] =
      some (Config.onlySettings text).root := Entry.at?_nil _
    have hnone : (Config.onlySettings text).root.at? ["new.toml"] = none := rfl
    exact FileSystem.spot_eq_ok_iff.mpr
      ⟨by decide, .vacant hroot ⟨by decide, by decide, by cases writing <;> rfl, by decide⟩ hnone⟩
  have hparents (path : String) (hparent : ∀ parent ∈ Path.parent? path, parent = "") :
      (Config.onlySettings text).HasParents path := fun parent h => .inl (hparent parent h)
  exact ⟨(Config.fileAt_onlySettings text).canBeWritten (hparents _ (by decide)),
    FileSystem.canBeWritten_of_vacant (hnew true) (hparents _ (by decide)),
    FileSystem.exists?_of_vacant (hnew false)⟩

/-- Settings that are not valid, as they name no file for the catalog. -/
def invalidSettings : Config :=
  { Config.default ⟨[]⟩ with catalog := { CatalogOptions.default with outputPath := "" } }

/-- The valid settings file of a directory is replaced. A file that is not there yet is not written,
and one that is not valid is not replaced. -/
theorem run_init_onlySettings :
    (run primerEdition (Config.onlySettings (Config.default ⟨[]⟩).toToml) ⟨[]⟩
      (initWords "config.toml" ++ ["--force"]) "").ending = .success ∧
    ((Config.onlySettings (Config.default ⟨[]⟩).toToml).CanBeWritten "new.toml" ∧
      (Config.onlySettings (Config.default ⟨[]⟩).toToml).exists? "new.toml" = false ∧
      (run primerEdition (Config.onlySettings (Config.default ⟨[]⟩).toToml) ⟨[]⟩
        (initWords "new.toml") "").ending ≠ .success) ∧
    (run primerEdition (Config.onlySettings invalidSettings.toToml) ⟨[]⟩
      (initWords "config.toml" ++ ["--force"]) "").ending ≠ .success := by
  obtain ⟨hnew, hreplace⟩ := ofWords_initWords
  refine ⟨?_, ?_, ?_⟩
  · have hread := Config.read_onlySettings (Config.default ⟨[]⟩).toToml
    have hfile := Config.fromFile_of_read hread ⟨[]⟩
    rw [Config.validate_default] at hfile
    rw [(run_init hreplace (canBeWritten_onlySettings _).1 "").1]
    refine ⟨.inr rfl, fun _ => ?_, fun _ => ⟨_, hfile⟩⟩
    exact (Config.readText_of_read hread).1
  · obtain ⟨-, hwrite, habsent⟩ := canBeWritten_onlySettings (Config.default ⟨[]⟩).toToml
    refine ⟨hwrite, habsent, ?_⟩
    rw [Ne, (run_init hnew hwrite "").1]
    rintro ⟨-, hgiven, -⟩
    exact absurd (hgiven nofun) (by rw [settingsPath, Option.getD_some, habsent]; nofun)
  · have hread := Config.read_onlySettings invalidSettings.toToml
    have hinvalid : invalidSettings.validate =
        .error (.invalidValue "catalog.output_path" "must not be empty") := by decide
    rw [Ne, (run_init hreplace (canBeWritten_onlySettings _).1 "").1]
    rintro ⟨-, -, hvalid⟩
    obtain ⟨c, hfile⟩ := hvalid (Config.readText_of_read hread).1
    rw [settingsPath, Option.getD_some, Config.fromFile_of_read hread, hinvalid] at hfile
    cases hfile

end Cli

end CodeCatalog
