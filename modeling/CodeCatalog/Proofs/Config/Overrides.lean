import CodeCatalog.Proofs.Config.Tables

/-!
# Settings and the variables in their place

The settings that a run goes by are loaded first and then overridden by variables. Overriding is
safe: whatever the variables hold, settings that are valid stay so. It reaches four settings only,
and once it is done it may be done again. So loading has no failures besides those of the settings
file.

## Main results

* `CodeCatalog.Config.validate_of_loadOrDefault` — settings that are loaded are valid.
* `CodeCatalog.Config.load_eq_map` — overriding adds no failure to loading.
* `CodeCatalog.Config.override_of_valid` — what overriding does to valid settings.
-/

namespace CodeCatalog.Config

open Toml

variable {fs : FileSystem} {env : Environment} {configPath : Option String} {path : String}
  {c : Config}

/-! ## Loading -/

/-- A file gives valid settings or none. -/
lemma validate_of_fromFile (h : fromFile fs env path = .ok c) : c.validate = .ok () := by
  unfold fromFile at h
  split at h
  · cases h
  · split at h
    · cases h
    · rename_i text _
      unfold parse at h
      split at h
      · cases h
      · obtain ⟨_, hvalid, rfl⟩ := map_eq_ok_iff.mp h
        exact hvalid

/-- **Settings that are loaded are valid**, from a file or without one. -/
lemma validate_of_loadOrDefault (h : loadOrDefault fs env configPath = .ok c) :
    c.validate = .ok () := by
  unfold loadOrDefault at h
  cases configPath with
  | some path => exact validate_of_fromFile h
  | none =>
    dsimp only at h
    split at h
    · exact validate_of_fromFile h
    · rw [← Except.ok.inj h]
      exact validate_default env

/-- **Overriding adds no failure to loading**: the settings are checked once more behind it, and
that check never fails. -/
lemma load_eq_map (fs : FileSystem) (env : Environment) (configPath : Option String) :
    load fs env configPath =
      (loadOrDefault fs env configPath).map fun c => c.override env.get? := by
  unfold load
  cases hload : loadOrDefault fs env configPath with
  | error e => rfl
  | ok c =>
    have hvalid := validate_override (validate_of_loadOrDefault hload) env.get?
    simp only [hvalid, Except.map]

/-! ## Overriding -/

/-- Once variables are in their place they have nothing left to change. -/
lemma override_override (c : Config) (lookup : String → Option String) :
    (c.override lookup).override lookup = c.override lookup := by
  have hgetD {α : Type} (a : Option α) (b : α) : a.getD (a.getD b) = a.getD b := by
    cases a <;> rfl
  have hor {α : Type} (a b : Option α) : a.or (a.or b) = a.or b := by
    cases a <;> rfl
  simp only [override, hgetD, hor]

/-- **Overriding valid settings.** Whatever the variables are, the settings are still valid, no
setting but the directory, the model, the place of the catalog and the policy is another one, and
overriding them again changes nothing. So loading settings fails exactly where the settings file
fails, and with its error. -/
theorem override_of_valid (hvalid : c.validate = .ok ()) (lookup : String → Option String) :
    (c.override lookup).validate = .ok () ∧
    (∃ codePath model outputPath onParseError, c.override lookup =
      { c with
        codePath
        tokenizer := { c.tokenizer with model }
        catalog := { c.catalog with outputPath, onParseError } }) ∧
    (c.override lookup).override lookup = c.override lookup ∧
    ∀ fs env configPath e,
      load fs env configPath = .error e ↔ loadOrDefault fs env configPath = .error e := by
  refine ⟨validate_override hvalid lookup, ?_, override_override c lookup, ?_⟩
  · exact ⟨_, _, _, _, rfl⟩
  · intro fs env configPath e
    rw [load_eq_map]
    cases loadOrDefault fs env configPath with
    | error e' => exact Iff.rfl
    | ok c' => exact iff_of_false nofun nofun

/-- Variables of which one is padded, one is blank and one does not name a policy; the directory is
not given. -/
def awkwardVariables : String → Option String
  | "CODESEER_MODEL" => some " gpt-4o\n"
  | "CODESEER_OUTPUT" => some "\t "
  | "CODESEER_ON_PARSE_ERROR" => some "ignore"
  | _ => none

/-- Of these variables only the padded one takes the place of a setting, as it is. -/
theorem override_awkwardVariables :
    (default ⟨[]⟩).validate = .ok () ∧
    (default ⟨[]⟩).override awkwardVariables =
      { default ⟨[]⟩ with tokenizer := { TokenizerOptions.default with model := " gpt-4o\n" } } ∧
    ((default ⟨[]⟩).override awkwardVariables).validate = .ok () ∧
    ((default ⟨[]⟩).override awkwardVariables).override awkwardVariables =
      (default ⟨[]⟩).override awkwardVariables := by
  have hdefault := validate_default ⟨[]⟩
  obtain ⟨hvalid, -, htwice, -⟩ := override_of_valid hdefault awkwardVariables
  exact ⟨hdefault, by decide, hvalid, htwice⟩

end CodeCatalog.Config
