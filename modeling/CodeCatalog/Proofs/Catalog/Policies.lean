import CodeCatalog.Proofs.Catalog.Outcome

/-!
# Leaving files out, or stopping at them

A file that cannot be read or parsed is left out of a catalog or ends its build, as the policy
says. The two policies are compared on the same directory: they differ only from the first such
file on, and the catalog of the lenient build is that of a strict build over the other files.

## Main definitions

* `CodeCatalog.Config.withPolicy` — settings with a policy.
* `CodeCatalog.BuildEvent.isSkipped` — the events about files that are left out.

## Main results

* `CodeCatalog.build_skip` — a build that leaves files out goes over all of them.
* `CodeCatalog.build_skip_abort` — how the builds under the two policies compare.
-/

namespace CodeCatalog

/-- Settings with a policy for files that cannot be read or parsed. -/
def Config.withPolicy (config : Config) (policy : ParseErrorPolicy) : Config :=
  { config with catalog := { config.catalog with onParseError := policy } }

/-- Whether an event is about a file that is left out. -/
def BuildEvent.isSkipped : BuildEvent → Bool
  | .skipped _ _ => true
  | _ => false

/-! ## Files under the strict policy -/

section Files

variable {extract : String → Except Error (List CodeUnit)}

/-- A build that stops at faulty files goes on behind the others. -/
lemma goesOn_abort (path : String) : goesOn .abort extract path = isExtracted extract path := by
  unfold goesOn isExtracted
  cases extract path with
  | ok units => rfl
  | error e => simp

/-- An event of the first pass is about a file that is left out if that file is faulty. -/
lemma isSkipped_fileEvent (path : String) :
    (fileEvent extract path).isSkipped = !isExtracted extract path := by
  unfold fileEvent isExtracted
  cases extract path with
  | ok units => rfl
  | error e => rfl

/-- No file is left out exactly if all of them can be extracted. -/
lemma filterMap_skippedFile?_eq_nil_iff {paths : List String} :
    paths.filterMap (skippedFile? extract) = [] ↔ ∀ path ∈ paths, isExtracted extract path := by
  rw [← List.map_eq_nil_iff (f := (·.path)), map_path_filterMap_skippedFile?,
    List.filter_eq_nil_iff]
  simp

/-- The first file that is left out is the first faulty one, with the text of its error. -/
lemma filterMap_skippedFile?_append_cons {good rest : List String} {bad : String} {e : Error}
    (hgood : ∀ path ∈ good, isExtracted extract path) (hbad : extract bad = .error e) :
    (good ++ bad :: rest).filterMap (skippedFile? extract) =
      ⟨bad, e.message⟩ :: rest.filterMap (skippedFile? extract) := by
  have hskip : skippedFile? extract bad = some ⟨bad, e.message⟩ := by
    simp [skippedFile?, fileError?, hbad]
  rw [List.filterMap_append, filterMap_skippedFile?_eq_nil_iff.mpr hgood, List.nil_append,
    List.filterMap_cons_some hskip]

/-- The events before the first one about a file that is left out are those of the files before
the first faulty one. -/
lemma takeWhile_events_append_cons {good rest : List String} {bad : String} {e : Error}
    (hgood : ∀ path ∈ good, isExtracted extract path) (hbad : extract bad = .error e)
    (events : List BuildEvent) :
    ((good ++ bad :: rest).map (fileEvent extract) ++ events).takeWhile (!·.isSkipped) =
      good.map (fileEvent extract) := by
  have hkept : ∀ event ∈ good.map (fileEvent extract), (!event.isSkipped) = true := by
    intro event hevent
    obtain ⟨path, hpath, rfl⟩ := List.mem_map.mp hevent
    rw [isSkipped_fileEvent, Bool.not_not]
    exact hgood path hpath
  have hstop : (!(fileEvent extract bad).isSkipped) = false := by
    simp [isSkipped_fileEvent, isExtracted, hbad]
  rw [List.map_append, List.map_cons, List.append_assoc, List.cons_append,
    List.takeWhile_append_of_pos hkept, List.takeWhile_cons_of_neg (by simp [hstop]),
    List.append_nil]

/-- The files that are not left out are those that can be extracted. -/
lemma filter_not_mem_skippedFiles (paths : List String) :
    paths.filter (fun path => path ∉ (paths.filterMap (skippedFile? extract)).map (·.path)) =
      paths.filter (isExtracted extract) := by
  refine List.filter_congr fun path hpath => ?_
  rw [map_path_filterMap_skippedFile?, Bool.eq_iff_iff]
  simp [hpath]

/-- A strict first and second pass over files that can all be extracted. -/
lemma secondPass_firstPass_abort {options : CatalogOptions} (count : String → Nat)
    {paths : List String} (hpolicy : options.onParseError = .abort)
    (hpaths : ∀ path ∈ paths, isExtracted extract path) :
    (secondPass count (firstPass options extract paths)).result =
      .ok (outcomeOf count extract paths) := by
  have hgoes : ∀ path ∈ paths, goesOn options.onParseError extract path := by
    intro path hpath
    rw [hpolicy, goesOn_abort]
    exact hpaths path hpath
  rw [firstPass_of_forall_goesOn hgoes, secondPass_after_none]

end Files

/-! ## The two builds -/

/-- What can be found in a directory is found. -/
lemma exists_discover_of_isDir {fs : FileSystem} {root : String} (hroot : fs.isDir root)
    (env : Environment) (options : DiscoveryOptions) :
    ∃ entries, discover fs env options root = .ok entries := by
  have hexists : fs.exists? root = true := by
    unfold FileSystem.isDir at hroot
    unfold FileSystem.exists?
    cases hentry : fs.entry root with
    | ok e => rfl
    | error e => simp [hentry] at hroot
  unfold discover
  simp only [hexists, hroot, Bool.not_true, Bool.false_eq_true, if_false]
  split
  · exact ⟨_, rfl⟩
  · exact ⟨_, rfl⟩

section Builds

variable {make : Python.TreeMaker} {fs : FileSystem} {env : Environment} {config : Config}
  {root : String} {entries : List (Except DiscoveryError String)}

/-- The build that leaves files out goes over all of them. -/
lemma build_skip (make : Python.TreeMaker) (count : String → Nat)
    (hd : discover fs env config.discovery root = .ok entries) :
    build make fs env (config.withPolicy .skip) count root =
      ⟨(visited entries).map (fileEvent (extractFile make fs)) ++
          (outcomeOf count (extractFile make fs) (visited entries)).records.map .enriched,
        .ok (outcomeOf count (extractFile make fs) (visited entries))⟩ := by
  have hd' : discover fs env (config.withPolicy .skip).discovery root = .ok entries := hd
  exact build_of_forall_goesOn hd' fun path _ => goesOn_skip_extractFile make fs path

/-- The strict build over files that can all be extracted is the lenient one. -/
lemma build_abort_of_forall_isExtracted (count : String → Nat)
    (hd : discover fs env config.discovery root = .ok entries)
    (h : ∀ path ∈ visited entries, isExtracted (extractFile make fs) path) :
    build make fs env (config.withPolicy .abort) count root =
      build make fs env (config.withPolicy .skip) count root := by
  have hd' : discover fs env (config.withPolicy .abort).discovery root = .ok entries := hd
  rw [build_skip make count hd]
  refine build_of_forall_goesOn hd' fun path hpath => ?_
  rw [show (config.withPolicy .abort).catalog.onParseError = .abort from rfl, goesOn_abort]
  exact h path hpath

/-- The strict build over files one of which is faulty ends at the first such file, with the
events of the files before it. -/
lemma build_abort_of_not_forall_isExtracted (count : String → Nat)
    (hd : discover fs env config.discovery root = .ok entries)
    (h : ¬ ∀ path ∈ visited entries, isExtracted (extractFile make fs) path) :
    ∃ good bad rest e, visited entries = good ++ bad :: rest ∧
      (∀ path ∈ good, isExtracted (extractFile make fs) path) ∧ extractFile make fs bad = .error e ∧
      build make fs env (config.withPolicy .abort) count root =
        ⟨good.map (fileEvent (extractFile make fs)), .error e⟩ := by
  have hd' : discover fs env (config.withPolicy .abort).discovery root = .ok entries := hd
  have hpolicy : goesOn (config.withPolicy .abort).catalog.onParseError (extractFile make fs) =
      isExtracted (extractFile make fs) := funext goesOn_abort
  obtain ⟨good, bad, rest, e, hsplit, hgood, -, he, hrun⟩ :=
    build_of_not_forall_goesOn count hd' (by rw [hpolicy]; exact h)
  rw [hpolicy] at hgood
  exact ⟨good, bad, rest, e, hsplit, hgood, he, hrun⟩

end Builds

/-- **Leaving files out and stopping at them**: for every file system, configuration, token
counter and root directory, the build that leaves faulty files out succeeds. The build that stops
at them succeeds exactly if no file was left out, and then the two builds are the same, events
and report included. Otherwise it fails with the error of the first file that was left out, whose
text is the reason noted there, after the events that the lenient build reported before it first
left a file out. And the records of the lenient build are those of a strict build over the
discovered files without the ones left out.

**Proof sketch.** Behind every file the lenient first pass goes on (`build_skip`), the strict one
exactly behind those that can be extracted (`goesOn_abort`). If all can be, nothing distinguishes
the two; if not, the files split at the first faulty one. Faulty files have no units, so without
them the records are the same (`flatMap_fileUnits_filter`). -/
theorem build_skip_abort (make : Python.TreeMaker) (fs : FileSystem) (env : Environment)
    (config : Config) (count : String → Nat) (root : String) (hroot : fs.isDir root) :
    ∃ entries out, discover fs env config.discovery root = .ok entries ∧
      (build make fs env (config.withPolicy .skip) count root).result = .ok out ∧
      ((∃ out', (build make fs env (config.withPolicy .abort) count root).result = .ok out') ↔
        out.skippedFiles = []) ∧
      (out.skippedFiles = [] → build make fs env (config.withPolicy .abort) count root =
        build make fs env (config.withPolicy .skip) count root) ∧
      (∀ f others, out.skippedFiles = f :: others →
        ∃ e, extractFile make fs f.path = .error e ∧ e.message = f.reason ∧
          build make fs env (config.withPolicy .abort) count root =
            ⟨(build make fs env (config.withPolicy .skip) count root).events.takeWhile
              (!·.isSkipped), .error e⟩) ∧
      ∃ out', (secondPass count (firstPass (config.withPolicy .abort).catalog (extractFile make fs)
          ((visited entries).filter
            fun path => path ∉ out.skippedFiles.map (·.path)))).result = .ok out' ∧
        out'.records = out.records := by
  obtain ⟨entries, hd⟩ := exists_discover_of_isDir hroot env config.discovery
  set paths := visited entries with hpaths
  set out := outcomeOf count (extractFile make fs) paths with hout
  have hskip := build_skip make count hd
  have hskipped : out.skippedFiles = paths.filterMap (skippedFile? (extractFile make fs)) := rfl
  have hremoved : ∃ out', (secondPass count (firstPass (config.withPolicy .abort).catalog
      (extractFile make fs)
      (paths.filter fun path => path ∉ out.skippedFiles.map (·.path)))).result = .ok out' ∧
        out'.records = out.records := by
    rw [hskipped, filter_not_mem_skippedFiles]
    refine ⟨_, secondPass_firstPass_abort count rfl fun path hpath => (List.mem_filter.mp hpath).2,
      ?_⟩
    simp only [hout, outcomeOf, flatMap_fileUnits_filter]
  refine ⟨entries, out, hd, by rw [hskip], ?_⟩
  by_cases hall : ∀ path ∈ paths, isExtracted (extractFile make fs) path
  · have hnil : out.skippedFiles = [] := filterMap_skippedFile?_eq_nil_iff.mpr hall
    have heq := build_abort_of_forall_isExtracted count hd hall
    refine ⟨iff_of_true ⟨out, by rw [heq, hskip]⟩ hnil, fun _ => heq, ?_, hremoved⟩
    intro f others hcons
    rw [hnil] at hcons
    cases hcons
  · obtain ⟨good, bad, rest, e, hsplit, hgood, he, hrun⟩ :=
      build_abort_of_not_forall_isExtracted count hd hall
    have hcons : out.skippedFiles =
        ⟨bad, e.message⟩ :: rest.filterMap (skippedFile? (extractFile make fs)) := by
      rw [hskipped, hpaths, hsplit]
      exact filterMap_skippedFile?_append_cons hgood he
    have hne : out.skippedFiles ≠ [] := by simp [hcons]
    refine ⟨iff_of_false ?_ hne, fun hnil => absurd hnil hne, ?_, hremoved⟩
    · rintro ⟨out', hout'⟩
      rw [hrun] at hout'
      cases hout'
    · intro f others hfirst
      obtain ⟨rfl, -⟩ := List.cons.inj (hcons.symm.trans hfirst)
      refine ⟨e, he, rfl, ?_⟩
      rw [hrun, hskip, hsplit]
      simp only [BuildRun.mk.injEq, and_true]
      exact (takeWhile_events_append_cons hgood he _).symm

/-- The second of the two files cannot be extracted: it is no text. -/
lemma not_isExtracted_twoFiles :
    isExtracted (extractFile Python.treeMaker twoFiles) "src/b.py" = false := by
  have hread : twoFiles.read "src/b.py" = .ok ⟨#[0x78, 0xFF]⟩ := by
    rw [show "src/b.py" = Path.join "src" "b.py" by decide]
    exact read_withSources (by decide) rfl (by decide) (by decide)
  have hdecode : String.fromUTF8? ⟨#[0x78, 0xFF]⟩ = none := by decide
  simp only [isExtracted, extractFile, hread, Text.decode, hdecode]

/-- In the directory with two files the lenient build leaves a file out, and the strict one
fails. -/
theorem build_twoFiles_skip_abort :
    twoFiles.isDir "src" = true ∧
      ∃ out, (build Python.treeMaker twoFiles ⟨[]⟩ (skippingConfig.withPolicy .skip)
          String.length "src").result = .ok out ∧ out.skippedFiles ≠ [] ∧
        ∀ out', (build Python.treeMaker twoFiles ⟨[]⟩ (skippingConfig.withPolicy .abort)
          String.length "src").result ≠ .ok out' := by
  have hroot : twoFiles.isDir "src" = true := isDir_withSources
  obtain ⟨-, out, -, hskip, hiff, -⟩ :=
    build_skip_abort Python.treeMaker twoFiles ⟨[]⟩ skippingConfig String.length "src" hroot
  have hne : out.skippedFiles ≠ [] := by
    rw [build_skip Python.treeMaker String.length (discover_twoFiles ⟨[]⟩)] at hskip
    obtain rfl := Except.ok.inj hskip
    intro hnil
    have hb := filterMap_skippedFile?_eq_nil_iff.mp hnil "src/b.py"
      (by simp [visited, Except.toOption])
    rw [not_isExtracted_twoFiles] at hb
    cases hb
  exact ⟨hroot, out, hskip, hne, fun out' hout' => hne (hiff.mp ⟨out', hout'⟩)⟩

end CodeCatalog
