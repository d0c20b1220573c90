import CodeCatalog.Proofs.Catalog.Passes
import CodeCatalog.Proofs.Discovery.Walk
import CodeCatalog.Proofs.Files.Below

/-!
# What a build yields

A build that succeeds accounts for every discovered file: its records are the units of the files
that can be extracted, in the order of discovery, and the other files are listed as left out.
Extracting all files before the first result is taken in changes nothing that can be observed.

## Main definitions

* `CodeCatalog.BuildOutcome.AccountsFor` — what an outcome says about the files of a build.
* `CodeCatalog.withSources` — a directory of source files, whatever stands beside it.
* `CodeCatalog.Config.withParallel` — settings with parallel extraction on or off.

## Main results

* `CodeCatalog.build_ok_accountsFor` — a build that succeeds accounts for the discovered files.
* `CodeCatalog.discover_withSources` — what a walk over a directory of source files finds.
* `CodeCatalog.build_parallel_eq_sequential` — parallel extraction does not change a build, and a
  build that fails stops at the first file that ends it.
-/

namespace CodeCatalog

/-! ## Accounting for files -/

/-- What the outcome of a build says about the files it went over. -/
structure BuildOutcome.AccountsFor (out : BuildOutcome) (count : String → Nat)
    (extract : String → Except Error (List CodeUnit)) (paths : List String) : Prop where
  /-- The number of a record is its place. -/
  identity : out.records.map (·.identity) = List.range out.records.length
  /-- The units are those of the files that can be extracted, in order. -/
  units : out.records.map (·.unit) =
    (paths.filter (isExtracted extract)).flatMap (fileUnits extract)
  /-- The tokens counted are those of the record's own text. -/
  tokenCount : ∀ r ∈ out.records, r.tokenCount = count r.unit.sourceText
  recordCount : out.recordCount = out.records.length
  /-- The files are divided into those that can be extracted, whose number is given, and those
  that are left out, which are listed. -/
  partition : ∃ processed,
    paths.partition (isExtracted extract) = (processed, out.skippedFiles.map (·.path)) ∧
      out.filesProcessed = processed.length
  /-- The reason given for a file is the text of its error. -/
  reason : ∀ f ∈ out.skippedFiles, ∃ e, extract f.path = .error e ∧ f.reason = e.message

section Accounts

variable (count : String → Nat) (extract : String → Except Error (List CodeUnit))

/-- A file has a note exactly if it cannot be extracted, and the note names the file. -/
lemma map_path_skippedFile? (path : String) :
    (skippedFile? extract path).map (·.path) =
      if isExtracted extract path then none else some path := by
  unfold skippedFile? fileError? isExtracted
  cases extract path with
  | ok units => rfl
  | error e => rfl

/-- The files with notes are those that cannot be extracted. -/
lemma map_path_filterMap_skippedFile? (paths : List String) :
    (paths.filterMap (skippedFile? extract)).map (·.path) =
      paths.filter (fun path => !isExtracted extract path) := by
  induction paths with
  | nil => rfl
  | cons path paths ih =>
    have hpath := map_path_skippedFile? extract path
    rw [List.filterMap_cons]
    cases hskip : skippedFile? extract path with
    | none =>
      have hex : isExtracted extract path = true := by
        by_contra hne
        simp [hskip, hne] at hpath
      simpa [hex] using ih
    | some f =>
      rw [hskip] at hpath
      split at hpath
      · cases hpath
      · rename_i hex
        simp only [Option.map_some, Option.some.injEq] at hpath
        simp [hex, hpath, ih]

/-- A file that cannot be extracted has no units. -/
lemma flatMap_fileUnits_filter (paths : List String) :
    (paths.filter (isExtracted extract)).flatMap (fileUnits extract) =
      paths.flatMap (fileUnits extract) := by
  induction paths with
  | nil => rfl
  | cons path paths ih =>
    by_cases hex : isExtracted extract path
    · simp [hex, ih]
    · have hnone : fileUnits extract path = [] := by
        unfold isExtracted at hex
        unfold fileUnits
        cases he : extract path with
        | ok units => simp [he] at hex
        | error e => rfl
      simp [hex, hnone, ih]

/-- The outcome of a build over files accounts for them. -/
lemma outcomeOf_accountsFor (paths : List String) :
    (outcomeOf count extract paths).AccountsFor count extract paths where
  identity := by
    have hlen : (outcomeOf count extract paths).records.length =
        (paths.flatMap (fileUnits extract)).length := by
      rw [← map_unit_enrich count 0 (paths.flatMap (fileUnits extract)), List.length_map]
      rfl
    rw [hlen, List.range_eq_range']
    exact map_identity_enrich count 0 _
  units := by
    rw [flatMap_fileUnits_filter]
    exact map_unit_enrich count 0 _
  tokenCount := fun r hr => tokenCount_of_mem_enrich count hr
  recordCount := rfl
  partition := by
    refine ⟨paths.filter (isExtracted extract), ?_, rfl⟩
    rw [List.partition_eq_filter_filter]
    exact congrArg _ (map_path_filterMap_skippedFile? extract paths).symm
  reason := by
    intro f hf
    obtain ⟨path, -, hskip⟩ := List.mem_filterMap.mp hf
    obtain ⟨e, he, rfl⟩ := Option.map_eq_some_iff.mp hskip
    refine ⟨e, ?_, rfl⟩
    unfold fileError? at he
    cases hex : extract path with
    | ok units => simp [hex] at he
    | error e' =>
      rw [hex] at he
      cases he
      rfl

end Accounts

/-- **A build that succeeds accounts for every discovered file**: for every file system,
environment, configuration and token counter, and whatever makes the trees, its records are
numbered from zero in order, their units are those of the discovered files that can be read and
parsed, in the order of discovery, their tokens are counted by the counter on their own texts, and
the discovered files are divided into the number of processed ones and the list of those left out.

**Proof sketch.** The first pass went on behind every file (`build_result_eq_ok_iff`), so the
outcome is that of all files, which accounts for them (`outcomeOf_accountsFor`). -/
theorem build_ok_accountsFor (make : Python.TreeMaker) (fs : FileSystem) (env : Environment)
    (config : Config) (count : String → Nat) (root : String) (out : BuildOutcome)
    (h : (build make fs env config count root).result = .ok out) :
    ∃ entries, discover fs env config.discovery root = .ok entries ∧
      out.AccountsFor count (extractFile make fs) (visited entries) := by
  obtain ⟨entries, hd, -, rfl⟩ := build_result_eq_ok_iff.mp h
  exact ⟨entries, hd, outcomeOf_accountsFor count (extractFile make fs) (visited entries)⟩

/-! ### Directories of source files -/

/-- The current directory, with a directory of source files and other entries beside it. -/
def withSources (sources others : List (String × Entry)) : FileSystem :=
  ⟨.dir (("src", .dir sources) :: others), []⟩

section Sources

variable {sources others : List (String × Entry)}

/-- The directory of source files is found. -/
lemma resolve_withSources : (withSources sources others).resolve "src" = .ok ["src"] := by
  have hfault : FileSystem.pathFault? "src" = none := by decide
  have hsplit : Path.splitSlash "src" = ["src"] := by decide
  have hsize : ¬ "src".utf8ByteSize > FileSystem.maxName := by decide
  simp only [FileSystem.resolve, FileSystem.spot, hfault, hsplit]
  simp [FileSystem.follow, withSources, FileSystem.start, Path.isAbsolute, Entry.at?, hsize]

/-- What stands there is a directory with the source files. -/
lemma entry_withSources : (withSources sources others).entry "src" = .ok (.dir sources) := by
  have hat : (withSources sources others).root.at? ["src"] = some (.dir sources) := Entry.at?_nil _
  simp only [FileSystem.entry, resolve_withSources, hat]

/-- A directory stands there. -/
lemma isDir_withSources : (withSources sources others).isDir "src" = true := by
  simp only [FileSystem.isDir, entry_withSources]

/-- A source file is read at its path. -/
lemma read_withSources {name : String} {content : ByteArray} (hname : Path.IsFileName name)
    (hlookup : sources.lookup name = some (.file content))
    (hsize : name.utf8ByteSize ≤ FileSystem.maxName)
    (hfault : FileSystem.pathFault? (Path.join "src" name) = none) :
    (withSources sources others).read (Path.join "src" name) = .ok content := by
  have hlink (target : String) : Entry.file content ≠ .link target := by simp
  rw [FileSystem.read,
    FileSystem.entry_join_of_lookup hname entry_withSources hlookup hlink hsize hfault]

/-- The files of leaves that are files. -/
lemma filesOf_leaves (paths : List String) :
    Found.filesOf (paths.map fun path => .leaf path true) = paths.map .ok := by
  induction paths with
  | nil => rfl
  | cons path paths ih => simp [Found.filesOf, Found.files, ih]

/-- Looking at a directory of files, in the order of their names. -/
lemma look_withSources (hordered : sources.Pairwise (·.1 ≤ ·.1))
    (hfiles : ∀ s ∈ sources, ∃ content, s.2 = .file content) :
    Found.look (withSources sources others) false "src" =
      .branch "src"
        ((sources.map fun s => Path.join "src" s.1).map fun path => .leaf path true) := by
  have hat : (withSources sources others).root.at? ["src"] = some (.dir sources) := Entry.at?_nil _
  have hinside (jump : Found.Trail → String → Found) (trail : Found.Trail) :
      Found.lookInside jump trail "src" ["src"] sources =
        sources.map fun s => (s.1, Found.leaf (Path.join "src" s.1) true) := by
    rw [Found.lookInside_eq_map]
    refine List.map_congr_left fun s hs => ?_
    obtain ⟨content, hfile⟩ := hfiles s hs
    rw [hfile, Found.lookAt]
  have hsorted : (sources.map fun s => (s.1, Found.leaf (Path.join "src" s.1) true)).Pairwise
      fun a b => Found.nameLe a b = true :=
    List.pairwise_map.mpr (hordered.imp fun h => decide_eq_true h)
  simp only [Found.look, resolve_withSources, hat, Found.lookAt, hinside,
    List.mergeSort_of_pairwise hsorted, List.map_map, Function.comp_def]

/-- A walk over files in the order of their names finds them in this order. -/
lemma discover_withSources (sources others : List (String × Entry)) (env : Environment)
    (hordered : sources.Pairwise (·.1 ≤ ·.1))
    (hfiles : ∀ s ∈ sources, ∃ content, s.2 = .file content)
    (haccepts : ∀ s ∈ sources,
      DiscoveryOptions.default.accepts "src" (Path.join "src" s.1) = true) :
    discover (withSources sources others) env .default "src" =
      .ok (sources.map fun s => .ok (Path.join "src" s.1)) := by
  have hwalk : walkAll (withSources sources others) .default "src" =
      sources.map fun s => .ok (Path.join "src" s.1) := by
    unfold walkAll
    rw [show DiscoveryOptions.default.followLinks = false from rfl,
      look_withSources hordered hfiles, Found.files, filesOf_leaves, List.filterMap_map,
      List.filterMap_map, ← List.filterMap_eq_map]
    exact List.filterMap_congr fun s hs => by simp [haccepts s hs]
  have hexists : (withSources sources others).exists? "src" = true := by
    rw [FileSystem.exists?, entry_withSources]
    rfl
  simp only [discover, hexists, isDir_withSources, hwalk]
  rfl

end Sources

/-- A directory with a source file and a file that is no text. -/
def twoFiles : FileSystem :=
  ⟨.dir [("src", .dir [("a.py", .file "x = 1\n".toUTF8), ("b.py", .file ⟨#[0x78, 0xFF]⟩)])], []⟩

/-- A walk finds both files, in the order of names. -/
lemma discover_twoFiles (env : Environment) :
    discover twoFiles env .default "src" = .ok [.ok "src/a.py", .ok "src/b.py"] := by
  have hja : Path.join "src" "a.py" = "src/a.py" := by decide
  have hjb : Path.join "src" "b.py" = "src/b.py" := by decide
  have hfound := discover_withSources
    [("a.py", .file "x = 1\n".toUTF8), ("b.py", .file ⟨#[0x78, 0xFF]⟩)] [] env
    (by simp) (by simp) (by decide)
  rw [List.map_cons, List.map_singleton, hja, hjb] at hfound
  exact hfound

/-- Settings under which files that cannot be read or parsed are left out. -/
def skippingConfig : Config :=
  { Config.default ⟨[]⟩ with catalog := { CatalogOptions.default with onParseError := .skip } }

/-- The build over the two files succeeds and accounts for both. -/
theorem build_twoFiles_accountsFor :
    ∃ out,
      (build Python.treeMaker twoFiles ⟨[]⟩ skippingConfig String.length "src").result = .ok out ∧
      out.AccountsFor String.length (extractFile Python.treeMaker twoFiles)
        ["src/a.py", "src/b.py"] := by
  have hok : (build Python.treeMaker twoFiles ⟨[]⟩ skippingConfig String.length "src").result =
      .ok (outcomeOf String.length (extractFile Python.treeMaker twoFiles)
        ["src/a.py", "src/b.py"]) :=
    build_result_eq_ok_iff.mpr ⟨_, discover_twoFiles ⟨[]⟩,
      fun path _ => goesOn_skip_extractFile Python.treeMaker twoFiles path, rfl⟩
  obtain ⟨entries, hd, hout⟩ := build_ok_accountsFor Python.treeMaker twoFiles ⟨[]⟩ skippingConfig
    String.length "src" _ hok
  have hentries : entries = [.ok "src/a.py", .ok "src/b.py"] :=
    Except.ok.inj (hd.symm.trans (discover_twoFiles ⟨[]⟩))
  rw [hentries] at hout
  exact ⟨_, hok, hout⟩

/-! ## Parallel extraction -/

/-- Settings with parallel extraction on or off. -/
def Config.withParallel (config : Config) (on : Bool) : Config :=
  { config with catalog := { config.catalog with parallelExtraction := on } }

/-- **Parallel extraction does not change a build**: the two builds report the same events and
end in the same way, with equal outcomes or with the same error. If they fail, then because the
directory cannot be walked, or with the error of the first discovered file that ends the build,
after the events of exactly the files before it.

**Proof sketch.** The closed form of the first pass (`firstPass_eq`) does not mention whether
extraction is parallel. How a build fails is `build_of_not_forall_goesOn`. -/
theorem build_parallel_eq_sequential (make : Python.TreeMaker) (fs : FileSystem)
    (env : Environment) (config : Config) (count : String → Nat) (root : String) :
    build make fs env (config.withParallel true) count root =
        build make fs env (config.withParallel false) count root ∧
      ((∃ out, (build make fs env (config.withParallel true) count root).result = .ok out) ∨
        (∃ e, discover fs env config.discovery root = .error e ∧
          build make fs env (config.withParallel true) count root = ⟨[], .error (.discovery e)⟩) ∨
        ∃ entries good bad rest e, discover fs env config.discovery root = .ok entries ∧
          visited entries = good ++ bad :: rest ∧
          (∀ path ∈ good, goesOn config.catalog.onParseError (extractFile make fs) path) ∧
          ¬ goesOn config.catalog.onParseError (extractFile make fs) bad ∧
          extractFile make fs bad = .error e ∧
          build make fs env (config.withParallel true) count root =
            ⟨good.map (fileEvent (extractFile make fs)), .error e⟩) := by
  constructor
  · simp only [build, Config.withParallel, firstPass_eq]
  · cases hd : discover fs env config.discovery root with
    | error e =>
      refine Or.inr (Or.inl ⟨e, rfl, ?_⟩)
      simp only [build, Config.withParallel, hd]
    | ok entries =>
      by_cases hall :
          ∀ path ∈ visited entries, goesOn config.catalog.onParseError (extractFile make fs) path
      · left
        exact ⟨_, build_result_eq_ok_iff.mpr ⟨entries, hd, hall, rfl⟩⟩
      · right; right
        have hd' : discover fs env (config.withParallel true).discovery root = .ok entries := hd
        obtain ⟨good, bad, rest, e, hsplit, hgood, hbad, he, hrun⟩ :=
          build_of_not_forall_goesOn count hd' hall
        exact ⟨entries, good, bad, rest, e, rfl, hsplit, hgood, hbad, he, hrun⟩

end CodeCatalog
