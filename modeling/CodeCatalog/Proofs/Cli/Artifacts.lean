import CodeCatalog.Cli.Session
import CodeCatalog.Proofs.Collection.Loading
import CodeCatalog.Proofs.Files.Frame

/-!
# What sessions do to files

A build that fails before its catalog is written leaves the file system as it was, and one that
succeeds changes the file of the catalog and nothing else. Loading a catalog that cannot be read, or
into a collection that cannot be read, changes nothing.

## Main definitions

* `CodeCatalog.Cli.BuildFlags.target` — the directory that a build is about.
* `CodeCatalog.Cli.Catalogs`, `Arrives` — a build that comes to a catalog.

## Main results

* `CodeCatalog.Catalog.sameBut_of_writeTo` — writing a catalog changes one file.
* `CodeCatalog.Cli.run_build_cases` — how a build ends.
* `CodeCatalog.Cli.files_of_run` — what builds and loads that fail leave of the files.
-/

namespace CodeCatalog

/-- Writing a catalog changes its file and nothing else. -/
lemma Catalog.sameBut_of_writeTo {fs fs' : FileSystem} {catalog : Catalog} {path : String}
    {pretty : Bool} (h : catalog.writeTo fs path pretty = (fs', .ok ())) :
    ∃ place, fs.SameBut place fs' ∧
      fs'.FileAt path place (catalog.toJson pretty).toUTF8 := by
  unfold writeTo at h
  split at h
  · cases h
  · rename_i fs₁ hparents
    split at h
    · cases h
    · rename_i fs₂ hwrite
      cases h
      obtain ⟨place, hsame, hfile⟩ :=
        FileSystem.sameBut_of_write hwrite (catalog.toUTF8_toJson_ne pretty)
      have habove := fs.sameBut_createParents path place
      rw [hparents] at habove
      exact ⟨place, habove.trans hsame, hfile⟩

namespace Cli

/-! ## Builds -/

/-- The directory that a build is about: the one of the command line, else the one of the settings,
else the one that the user types. -/
def BuildFlags.target (flags : BuildFlags) (config : Config) (input : String) : String :=
  (flags.directory.or config.codePath).getD (Text.trim (firstLine input))

/-- A build over a directory that comes to a catalog. -/
structure Catalogs (edition : Edition) (fs : FileSystem) (env : Environment) (config : Config)
    (directory : String) (catalog : Catalog) : Prop where
  isDir : fs.isDir directory = true
  built : ∃ counter outcome,
    TokenCounter.ofModel config.tokenizer.model config.tokenizer.allowedSpecial = .ok counter ∧
    (build edition.makeTree fs env config (counter.count edition.vocabulary) directory).result =
      .ok outcome ∧
    outcome.records = catalog.records

/-- A build session that comes to a catalog, and the settings it runs with. -/
structure Arrives (edition : Edition) (fs : FileSystem) (env : Environment)
    (configPath : Option String) (flags : BuildFlags) (input : String) (config : Config)
    (catalog : Catalog) : Prop where
  settings : (Config.load fs env configPath).map flags.apply = .ok config
  valid : config.validate = .ok ()
  catalogs : Catalogs edition fs env config (flags.target config input) catalog

/-- How writing a catalog ends a session: the files are those that writing leaves. -/
def EndsWriting (fs : FileSystem) (config : Config) (catalog : Catalog) (c : Completion) : Prop :=
  match catalog.writeTo fs config.catalog.outputPath config.catalog.pretty with
  | (fs', .error e) => c.files = fs' ∧ c.ending = .failure ("Failed to write catalog" :: e.chain)
  | (fs', .ok ()) => c.files = fs' ∧ c.ending = .success

/-- A session that fails and leaves the files as they were. -/
def FailsCleanly (fs : FileSystem) (c : Completion) : Prop :=
  c.files = fs ∧ ∃ chain, c.ending = .failure chain

/-- A session that only fails leaves the files as they were. -/
lemma failsCleanly_failed (fs : FileSystem) (chain : List String) :
    FailsCleanly fs (failed fs chain) := ⟨rfl, chain, rfl⟩

/-- A build over a directory fails cleanly, or comes to a catalog and ends with writing it. -/
lemma buildDirectory_cases (edition : Edition) (fs : FileSystem) (env : Environment)
    (config : Config) (directory : String) :
    FailsCleanly fs (buildDirectory edition fs env config directory) ∨
      ∃ catalog, Catalogs edition fs env config directory catalog ∧
        EndsWriting fs config catalog (buildDirectory edition fs env config directory) := by
  unfold buildDirectory
  split
  · exact .inl (failsCleanly_failed fs _)
  · rename_i hdir
    split
    · exact .inl (failsCleanly_failed fs _)
    · rename_i counter hcounter
      dsimp only
      split
      · exact .inl ⟨rfl, _, rfl⟩
      · rename_i outcome hbuild
        refine .inr ⟨⟨outcome.records⟩, ⟨by simpa using hdir, counter, outcome, hcounter, hbuild,
          rfl⟩, ?_⟩
        unfold EndsWriting
        generalize Catalog.writeTo fs ⟨outcome.records⟩ _ _ = written
        obtain ⟨fs', _ | _⟩ := written <;> exact ⟨rfl, rfl⟩

/-- The end of a session for a user who types something. -/
def Session.answer (input : String) : Session → Completion
  | .over c => c
  | .question _ answered => answered (firstLine input)

/-- A question shows in the output only. -/
lemma run_eq_answer (edition : Edition) (fs : FileSystem) (env : Environment)
    (words : List String) (input : String) :
    (run edition fs env words input).files = ((start edition fs env words).answer input).files ∧
      (run edition fs env words input).ending =
        ((start edition fs env words).answer input).ending := by
  unfold run
  obtain c | ⟨prompt, answered⟩ := start edition fs env words
  · exact ⟨rfl, rfl⟩
  · exact ⟨rfl, rfl⟩

/-- Whether the directory is known or asked for, it is the one that the build is about. -/
lemma answer_startBuild (edition : Edition) (fs : FileSystem) (env : Environment)
    (config : Config) (flags : BuildFlags) (input : String)
    (hvalid : (flags.apply config).validate = .ok ()) :
    (startBuild edition fs env config flags).answer input =
      buildDirectory edition fs env (flags.apply config)
        (flags.target (flags.apply config) input) := by
  unfold startBuild BuildFlags.target
  simp only [hvalid]
  cases flags.directory.or (flags.apply config).codePath <;>
    simp only [Session.answer, Option.getD_some, Option.getD_none]

/-- **How a build session ends.** It fails and leaves the files as they were, or it comes to a
catalog and ends with writing it.

**Proof sketch.** Every step before the writing hands the file system on as it is: loading the
settings, checking them, looking at the directory, choosing the encoding, and the two passes
(`buildDirectory_cases`). -/
lemma run_build_cases (edition : Edition) (fs : FileSystem) (env : Environment)
    {words : List String}
    {configPath : Option String} {flags : BuildFlags}
    (hwords : Request.ofWords words = .run ⟨configPath, .build flags⟩) (input : String) :
    FailsCleanly fs (run edition fs env words input) ∨
      ∃ config catalog, Arrives edition fs env configPath flags input config catalog ∧
        EndsWriting fs config catalog (run edition fs env words input) := by
  obtain ⟨hfiles, hending⟩ := run_eq_answer edition fs env words input
  unfold FailsCleanly EndsWriting
  rw [hfiles, hending]
  simp only [start, hwords, startInvocation]
  cases hload : Config.load fs env configPath with
  | error e => exact .inl (failsCleanly_failed fs _)
  | ok loaded =>
    simp only [startCommand]
    cases hvalid : (flags.apply loaded).validate with
    | error e =>
      simp only [startBuild, hvalid]
      exact .inl (failsCleanly_failed fs _)
    | ok _ =>
      rw [answer_startBuild edition fs env loaded flags input hvalid]
      obtain hclean | ⟨catalog, hcatalogs, hends⟩ :=
        buildDirectory_cases edition fs env (flags.apply loaded)
          (flags.target (flags.apply loaded) input)
      · exact .inl hclean
      · exact .inr ⟨flags.apply loaded, catalog, ⟨by rw [hload]; rfl, hvalid, hcatalogs⟩, hends⟩

/-! ## Loads -/

variable {fs : FileSystem}

/-- A catalog that cannot be read is not loaded, and nothing is opened for it. -/
lemma loadInto_of_readFrom {catalogPath : String} {e : Error}
    (h : Catalog.readFrom fs catalogPath = .error e) (collectionPath : String) (append : Bool) :
    loadInto fs catalogPath collectionPath append = failed fs e.chain := by
  simp only [loadInto, h]

/-- Nothing is added to a collection that is there and cannot be read. -/
lemma loadInto_of_readDocuments {collectionPath : String} {e : Error}
    (hthere : fs.exists? collectionPath = true)
    (h : LineCollection.readDocuments fs collectionPath = .error e) (catalogPath : String) :
    FailsCleanly fs (loadInto fs catalogPath collectionPath true) := by
  have hopen : LineCollection.openExisting fs collectionPath = (fs, .error e) := by
    simp only [LineCollection.openExisting, LineCollection.existingIds, hthere, h, Except.map,
      if_true]
  unfold loadInto
  cases Catalog.readFrom fs catalogPath with
  | error e => exact failsCleanly_failed fs _
  | ok catalog =>
    simp only [hopen, if_true]
    exact failsCleanly_failed fs _

/-- A load whose settings are there loads a catalog into a collection. -/
lemma run_eq_loadInto {edition : Edition} {env : Environment} {words : List String}
    {configPath catalog collection : Option String} {append : Bool} {config : Config}
    (hwords : Request.ofWords words = .run ⟨configPath, .load catalog collection append⟩)
    (hload : Config.load fs env configPath = .ok config) (input : String) :
    run edition fs env words input = loadInto fs (catalog.getD config.catalog.outputPath)
      (collection.getD config.collectionPath) append := by
  simp only [run, start, hwords, startInvocation, hload, startCommand]

/-! ## Both -/

/-- **Failing sessions leave the files alone.**

A command line that asks for nothing to be run changes no file. A build that does not succeed
leaves the file system as it was, unless it came to a catalog that could not be written; one that
succeeds came to a catalog, and changes no file but the one at the output path, which then has the
text of that catalog. A load fails without a change when its catalog cannot be read or decoded, and
likewise when it is to append to a collection that is there and cannot be read or decoded.

**Proof sketch.** A build ends as in `run_build_cases`; writing a catalog changes one file
(`Catalog.sameBut_of_writeTo`). A load reads the catalog and the collection before it opens a file
(`loadInto_of_readFrom`, `loadInto_of_readDocuments`). -/
theorem files_of_run (edition : Edition) (fs : FileSystem) (env : Environment)
    (words : List String) (input : String) :
    ((∀ i, Request.ofWords words ≠ .run i) → (run edition fs env words input).files = fs) ∧
    (∀ configPath flags, Request.ofWords words = .run ⟨configPath, .build flags⟩ →
      ((run edition fs env words input).ending ≠ .success →
        (run edition fs env words input).files = fs ∨
          ∃ config catalog e, Arrives edition fs env configPath flags input config catalog ∧
            catalog.writeTo fs config.catalog.outputPath config.catalog.pretty =
              ((run edition fs env words input).files, .error e) ∧
            (run edition fs env words input).ending =
              .failure ("Failed to write catalog" :: e.chain)) ∧
      ((run edition fs env words input).ending = .success →
        ∃ config catalog place, Arrives edition fs env configPath flags input config catalog ∧
          fs.SameBut place (run edition fs env words input).files ∧
          (run edition fs env words input).files.FileAt config.catalog.outputPath place
            (catalog.toJson config.catalog.pretty).toUTF8)) ∧
    (∀ configPath catalog collection append config,
      Request.ofWords words = .run ⟨configPath, .load catalog collection append⟩ →
      Config.load fs env configPath = .ok config →
      (∀ e, Catalog.readFrom fs (catalog.getD config.catalog.outputPath) = .error e →
        (run edition fs env words input).files = fs ∧
          (run edition fs env words input).ending = .failure e.chain) ∧
      (∀ e, append = true → fs.exists? (collection.getD config.collectionPath) = true →
        LineCollection.readDocuments fs (collection.getD config.collectionPath) = .error e →
        (run edition fs env words input).files = fs ∧
          (run edition fs env words input).ending ≠ .success)) := by
  refine ⟨?_, ?_, ?_⟩
  · intro hnothing
    unfold run start
    cases hwords : Request.ofWords words with
    | run i => exact absurd hwords (hnothing i)
    | _ => rfl
  · intro configPath flags hwords
    obtain ⟨hfiles, chain, hending⟩ | ⟨config, catalog, harrives, hends⟩ :=
      run_build_cases edition fs env hwords input
    · exact ⟨fun _ => .inl hfiles, fun hsuccess => by rw [hending] at hsuccess; cases hsuccess⟩
    · unfold EndsWriting at hends
      split at hends
      · rename_i fs' e hwrite
        refine ⟨fun _ => .inr ⟨config, catalog, e, harrives, ?_, hends.2⟩, fun hsuccess => ?_⟩
        · rw [hwrite, hends.1]
        · rw [hends.2] at hsuccess
          cases hsuccess
      · rename_i fs' hwrite
        obtain ⟨place, hsame, hfile⟩ := Catalog.sameBut_of_writeTo hwrite
        rw [hends.1]
        exact ⟨fun hfailure => absurd hends.2 hfailure,
          fun _ => ⟨config, catalog, place, harrives, hsame, hfile⟩⟩
  · intro configPath catalog collection append config hwords hload
    rw [run_eq_loadInto hwords hload]
    refine ⟨fun e hread => ?_, fun e happend hthere hdocuments => ?_⟩
    · rw [loadInto_of_readFrom hread]
      exact ⟨rfl, rfl⟩
    · subst happend
      obtain ⟨hfiles, chain, hending⟩ :=
        loadInto_of_readDocuments hthere hdocuments (catalog.getD config.catalog.outputPath)
      exact ⟨hfiles, by rw [hending]; nofun⟩

/-! ### Old files beside a source file -/

/-- A program that has the tree of one source file at hand and counts every piece of a text as one
token. -/
def primerEdition : Edition where
  makeTree := primerMaker
  vocabulary := fun _ _ => 1
  help := fun _ => ""
  advice := fun _ => ""
  commit := ""
  made := ""

/-- The words of a build that is to replace the catalog file. -/
def buildWords (directory : String) : List String := ["build", directory, "-o", "catalog.json"]

/-- The words of a load of the catalog file into the collection file. -/
def loadWords : List String := ["load", "catalog.json", "--collection", "collection.jsonl"]

/-- Without a directory of the program there is no settings file, so the settings are those when
nothing is said. -/
lemma load_of_lookup {entries : List (String × Entry)} (h : entries.lookup "codeseer" = none) :
    Config.load ⟨.dir entries, []⟩ ⟨[]⟩ none = .ok (Config.default ⟨[]⟩) := by
  have hfault : FileSystem.pathFault? "./codeseer/config.toml" = none := by decide
  have hsplit : Path.splitSlash "./codeseer/config.toml" = [".", "codeseer", "config.toml"] := by
    decide
  have hsize : ¬ "codeseer".utf8ByteSize > FileSystem.maxName := by decide
  have habsent : FileSystem.exists? ⟨.dir entries, []⟩ (Locations.configFile ⟨[]⟩) = false := by
    rw [show Locations.configFile ⟨[]⟩ = "./codeseer/config.toml" by decide]
    simp only [FileSystem.exists?, FileSystem.entry, FileSystem.resolve, FileSystem.spot, hfault,
      hsplit]
    simp [FileSystem.follow, FileSystem.start, Path.isAbsolute, Entry.at?, hsize, h, Except.toBool]
  simp only [Config.load, Config.loadOrDefault, habsent]
  rfl

/-- There is no settings file beside the sources. -/
lemma load_besidePrimer (catalog collection : ByteArray) :
    Config.load (besidePrimer catalog collection) ⟨[]⟩ none = .ok (Config.default ⟨[]⟩) :=
  load_of_lookup rfl

/-- Nothing stands under the name of the other build. -/
lemma isDir_nowhere : staleFiles.isDir "nowhere" = false := by
  have hfault : FileSystem.pathFault? "nowhere" = none := by decide
  have hsplit : Path.splitSlash "nowhere" = ["nowhere"] := by decide
  have hsize : ¬ "nowhere".utf8ByteSize > FileSystem.maxName := by decide
  simp only [FileSystem.isDir, FileSystem.entry, FileSystem.resolve, FileSystem.spot, hfault,
    hsplit]
  simp [FileSystem.follow, staleFiles, besidePrimer, withSources, FileSystem.start,
    Path.isAbsolute, Entry.at?, List.lookup_cons, hsize]

/-- The build of a directory that is not there comes to no catalog. -/
lemma not_arrives_nowhere (config : Config) (catalog : Catalog) :
    ¬ Arrives primerEdition staleFiles ⟨[]⟩ none
      { directory := some "nowhere", output := some "catalog.json" } "" config catalog := by
  intro h
  have hdir : staleFiles.isDir "nowhere" = true := h.catalogs.isDir
  rw [isDir_nowhere] at hdir
  cases hdir

/-- The old catalog file is no catalog. -/
lemma readFrom_staleFiles : ∃ e, Catalog.readFrom staleFiles "catalog.json" = .error e := by
  have hread : staleFiles.read "catalog.json" = .ok "[".toUTF8 :=
    (plainName_catalog.fileAt rfl).read
  have hjson : (Catalog.ofJson "[").toOption = none := by decide +kernel
  simp only [Catalog.readFrom, FileSystem.readText, hread, Text.fromUTF8?_toUTF8]
  cases hcatalog : Catalog.ofJson "[" with
  | error f => exact ⟨_, rfl⟩
  | ok c => rw [hcatalog] at hjson; cases hjson

/-- The old collection file is no collection. -/
lemma readDocuments_besidePrimer (catalog : ByteArray) :
    ∃ e, LineCollection.readDocuments (besidePrimer catalog "\x7b".toUTF8) "collection.jsonl" =
      .error e := by
  have hread : (besidePrimer catalog "\x7b".toUTF8).read "collection.jsonl" = .ok "\x7b".toUTF8 :=
    (plainName_collection.fileAt rfl).read
  have hjson : (LineCollection.documentsOf 1 (Text.byteLines "\x7b".toUTF8)).toOption = none := by
    decide +kernel
  simp only [LineCollection.readDocuments, hread]
  cases hdocuments : LineCollection.documentsOf 1 (Text.byteLines "\x7b".toUTF8) with
  | error reason => exact ⟨_, rfl⟩
  | ok ds => rw [hdocuments] at hjson; cases hjson

/-- The settings of the build. -/
def buildSettings : Config :=
  { Config.default ⟨[]⟩ with
    catalog := { CatalogOptions.default with outputPath := "catalog.json" } }

/-- The records of the build. -/
def builtRecords : List Record := primerRecords 7 4

/-- The files when the catalog of the build has replaced the old catalog file. -/
def builtFiles : FileSystem :=
  besidePrimer (Catalog.toJson ⟨builtRecords⟩ true).toUTF8 "\x7b".toUTF8

/-- The counter of the build. -/
def gpt4Counter : TokenCounter :=
  ⟨"gpt-4", .cl100k, TokenCounter.resolveSpecial ["<|endoftext|>"]⟩

/-- The counter is the one of the model in the settings. -/
lemma ofModel_buildSettings :
    TokenCounter.ofModel buildSettings.tokenizer.model buildSettings.tokenizer.allowedSpecial =
      .ok gpt4Counter := rfl

/-- The build comes to these records. -/
lemma build_staleFiles :
    ∃ report, (build primerEdition.makeTree staleFiles ⟨[]⟩ buildSettings
      (gpt4Counter.count primerEdition.vocabulary) "src").result = .ok ⟨report, builtRecords⟩ := by
  obtain ⟨⟨report, records⟩, hbuild, hunits⟩ := build_primer
    [("catalog.json", .file "[".toUTF8), ("collection.jsonl", .file "\x7b".toUTF8)]
    buildSettings rfl ⟨[]⟩ (gpt4Counter.count primerEdition.vocabulary)
  obtain rfl : records = builtRecords := hunits.trans (by decide +kernel)
  exact ⟨report, hbuild⟩

/-- The catalog of the build replaces the old catalog file. -/
lemma buildDirectory_staleFiles :
    (buildDirectory primerEdition staleFiles ⟨[]⟩ buildSettings "src").files = builtFiles ∧
      (buildDirectory primerEdition staleFiles ⟨[]⟩ buildSettings "src").ending = .success := by
  have hdir : staleFiles.isDir "src" = true := isDir_withSources
  obtain ⟨report, hbuild⟩ := build_staleFiles
  have hwrite : Catalog.writeTo staleFiles ⟨builtRecords⟩ buildSettings.catalog.outputPath
      buildSettings.catalog.pretty = (builtFiles, .ok ()) := writeTo_besidePrimer _ _ _ _
  simp only [buildDirectory, hdir, ofModel_buildSettings, hbuild, hwrite]
  exact ⟨rfl, rfl⟩

/-- What the words of the two builds ask for. -/
lemma ofWords_buildWords :
    Request.ofWords (buildWords "src") =
      .run ⟨none, .build { directory := some "src", output := some "catalog.json" }⟩ ∧
    Request.ofWords (buildWords "nowhere") =
      .run ⟨none, .build { directory := some "nowhere", output := some "catalog.json" }⟩ := by
  constructor <;> decide

/-- The session of the build ends with the new catalog file. -/
lemma run_build_staleFiles :
    (run primerEdition staleFiles ⟨[]⟩ (buildWords "src") "").files = builtFiles ∧
      (run primerEdition staleFiles ⟨[]⟩ (buildWords "src") "").ending = .success := by
  rw [(run_eq_answer ..).1, (run_eq_answer ..).2]
  simp only [start, ofWords_buildWords.1, startInvocation, staleFiles,
    load_besidePrimer, startCommand]
  rw [answer_startBuild _ _ _ _ _ _ rfl]
  exact buildDirectory_staleFiles

/-- The catalog that the build comes to has these records. -/
lemma records_of_arrives {config : Config} {catalog : Catalog}
    (h : Arrives primerEdition staleFiles ⟨[]⟩ none
      { directory := some "src", output := some "catalog.json" } "" config catalog) :
    catalog.records = builtRecords := by
  obtain rfl : buildSettings = config := by
    have hsettings := h.settings
    rw [staleFiles, load_besidePrimer] at hsettings
    exact Except.ok.inj hsettings
  obtain ⟨counter, outcome, hcounter, hresult, hrecords⟩ := h.catalogs.built
  obtain rfl : gpt4Counter = counter := Except.ok.inj (ofModel_buildSettings.symm.trans hcounter)
  obtain ⟨report, hbuild⟩ := build_staleFiles
  obtain rfl : ⟨report, builtRecords⟩ = outcome := Except.ok.inj (hbuild.symm.trans hresult)
  exact hrecords.symm

/-- The build of the directory succeeds, and changes no file but the old catalog file, which then
has the text of a catalog with two records. A build of something that is not there fails, although
it is to replace the same file, and so does a load of the old catalog file, with the old collection
file at stake; neither changes anything. When the catalog is there, appending it to the old
collection file fails, and changes nothing either. A question for the version changes nothing. -/
theorem files_of_run_staleFiles :
    (∃ config catalog place,
      Arrives primerEdition staleFiles ⟨[]⟩ none
        { directory := some "src", output := some "catalog.json" } "" config catalog ∧
      catalog.records = builtRecords ∧
      staleFiles.SameBut place (run primerEdition staleFiles ⟨[]⟩ (buildWords "src") "").files ∧
      (run primerEdition staleFiles ⟨[]⟩ (buildWords "src") "").files.FileAt
        config.catalog.outputPath place (catalog.toJson config.catalog.pretty).toUTF8) ∧
    (run primerEdition staleFiles ⟨[]⟩ (buildWords "src") "").files = builtFiles ∧
    (run primerEdition staleFiles ⟨[]⟩ (buildWords "src") "").ending = .success ∧
    (run primerEdition staleFiles ⟨[]⟩ (buildWords "nowhere") "").files = staleFiles ∧
    (run primerEdition staleFiles ⟨[]⟩ (buildWords "nowhere") "").ending ≠ .success ∧
    (run primerEdition staleFiles ⟨[]⟩ loadWords "").files = staleFiles ∧
    (run primerEdition staleFiles ⟨[]⟩ loadWords "").ending ≠ .success ∧
    (run primerEdition builtFiles ⟨[]⟩ (loadWords ++ ["--append"]) "").files = builtFiles ∧
    (run primerEdition builtFiles ⟨[]⟩ (loadWords ++ ["--append"]) "").ending ≠ .success ∧
    (run primerEdition staleFiles ⟨[]⟩ ["--version"] "").files = staleFiles := by
  obtain ⟨hwords, hnowhere⟩ := ofWords_buildWords
  have hversion : Request.ofWords ["--version"] = .version true := by decide
  obtain ⟨hbuilt, hsuccess⟩ := run_build_staleFiles
  have hfailure :
      (run primerEdition staleFiles ⟨[]⟩ (buildWords "nowhere") "").ending ≠ .success := by
    intro h
    obtain ⟨config, catalog, -, harrives, -⟩ := ((files_of_run _ _ _ _ _).2.1 _ _ hnowhere).2 h
    exact not_arrives_nowhere config catalog harrives
  have hload : Request.ofWords loadWords =
      .run ⟨none, .load (some "catalog.json") (some "collection.jsonl") false⟩ := by decide
  obtain ⟨e, hread⟩ := readFrom_staleFiles
  obtain ⟨hfiles, hending⟩ := ((files_of_run primerEdition staleFiles ⟨[]⟩ _ "").2.2 _ _ _ _ _
    hload (load_besidePrimer _ _)).1 e hread
  have happend : Request.ofWords (loadWords ++ ["--append"]) =
      .run ⟨none, .load (some "catalog.json") (some "collection.jsonl") true⟩ := by decide
  have hthere : builtFiles.exists? "collection.jsonl" = true :=
    FileSystem.FileAt.exists? (plainName_collection.fileAt rfl)
  obtain ⟨e', hdocuments⟩ := readDocuments_besidePrimer (Catalog.toJson ⟨builtRecords⟩ true).toUTF8
  obtain ⟨hfiles', hending'⟩ := ((files_of_run primerEdition builtFiles ⟨[]⟩ _ "").2.2 _ _ _ _ _
    happend (load_besidePrimer _ _)).2 e' rfl hthere hdocuments
  obtain ⟨config, catalog, place, harrives, hsame, hfile⟩ :=
    ((files_of_run _ _ _ _ _).2.1 _ _ hwords).2 hsuccess
  refine ⟨⟨config, catalog, place, harrives, records_of_arrives harrives, hsame, hfile⟩,
    hbuilt, hsuccess, ?_, hfailure, hfiles, by rw [hending]; nofun, hfiles', hending',
    (files_of_run _ _ _ _ _).1 fun _ => by rw [hversion]; nofun⟩
  obtain hfiles | ⟨config, catalog, -, harrives, -⟩ :=
    ((files_of_run _ _ _ _ _).2.1 _ _ hnowhere).1 hfailure
  · exact hfiles
  · exact absurd harrives (not_arrives_nowhere config catalog)

end Cli

end CodeCatalog
