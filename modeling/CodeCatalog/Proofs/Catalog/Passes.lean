import Mathlib.Data.List.TakeWhile
import Mathlib.Tactic.Lemma
import Mathlib.Tactic.Set
import CodeCatalog.Catalog.Build

/-!
# The passes of a build

The first pass takes the results of source files in, one after the other, up to the first file
that ends the build. What it has collected by then is described by a closed form over the files
that came before, and the second pass numbers the collected units.

## Main definitions

* `CodeCatalog.goesOn` — whether the first pass goes on behind a file.
* `CodeCatalog.fileUnits`, `skippedFile?`, `fileEvent`, `fileError?` — what one file contributes.
* `CodeCatalog.Accumulator.after` — what has been collected when files have been taken in.
* `CodeCatalog.outcomeOf` — what a build over files yields.

## Main results

* `CodeCatalog.firstPass_eq` — the first pass collects exactly the files before the first one
  that ends it, and reports the error of that one, with parallel extraction or without.
* `CodeCatalog.build_result_eq_ok_iff` — when a build succeeds, and with what.
* `CodeCatalog.isPerFile_of_extractFile` — every error of a source file concerns that file only.
-/

namespace CodeCatalog

/-! ## What one file contributes -/

section Files

variable (policy : ParseErrorPolicy) (extract : String → Except Error (List CodeUnit))

/-- Whether the first pass goes on behind a file. -/
def goesOn (path : String) : Bool :=
  match extract path with
  | .ok _ => true
  | .error e => decide (policy = .skip ∧ e.isPerFile)

/-- Whether the units of a file can be extracted. -/
def isExtracted (path : String) : Bool :=
  match extract path with
  | .ok _ => true
  | .error _ => false

/-- The units of a file; none if they cannot be extracted. -/
def fileUnits (path : String) : List CodeUnit :=
  match extract path with
  | .ok units => units
  | .error _ => []

/-- The error of a file whose units cannot be extracted. -/
def fileError? (path : String) : Option Error :=
  match extract path with
  | .ok _ => none
  | .error e => some e

/-- The note about a file whose units cannot be extracted. -/
def skippedFile? (path : String) : Option SkippedFile :=
  (fileError? extract path).map fun e => ⟨path, e.message⟩

/-- What is reported about a file that does not end the build. -/
def fileEvent (path : String) : BuildEvent :=
  match extract path with
  | .ok units => .processed path units.length
  | .error e => .skipped path e.message

/-- What has been collected when files have been taken in. -/
def Accumulator.after (acc : Accumulator) (paths : List String) : Accumulator where
  units := (paths.flatMap (fileUnits extract)).reverse ++ acc.units
  filesProcessed := acc.filesProcessed + (paths.filter (isExtracted extract)).length
  skippedFiles := (paths.filterMap (skippedFile? extract)).reverse ++ acc.skippedFiles
  events := (paths.map (fileEvent extract)).reverse ++ acc.events

variable {policy extract}

/-- Taking files in one by one is taking them in together. -/
lemma Accumulator.after_cons (acc : Accumulator) (path : String) (paths : List String) :
    (acc.after extract [path]).after extract paths = acc.after extract (path :: paths) := by
  simp only [Accumulator.after, Accumulator.mk.injEq]
  refine ⟨by simp, ?_, ?_, by simp⟩
  · simp only [List.filter_cons, List.filter_nil]
    split
    · simp only [List.length_cons, List.length_nil]
      omega
    · simp
  · simp only [List.filterMap_cons, List.filterMap_nil]
    split <;> simp

/-- The step of the first pass at a file behind which it goes on. -/
lemma absorb_of_goesOn {path : String} (h : goesOn policy extract path) (acc : Accumulator) :
    acc.absorb policy path (extract path) = .ok (acc.after extract [path]) := by
  unfold goesOn at h
  cases he : extract path with
  | ok units =>
    simp [Accumulator.absorb, Accumulator.after, fileUnits, isExtracted, skippedFile?, fileError?,
      fileEvent, he]
  | error e =>
    rw [he] at h
    have hskip : policy = .skip ∧ e.isPerFile := of_decide_eq_true h
    simp [Accumulator.absorb, Accumulator.after, fileUnits, isExtracted, skippedFile?, fileError?,
      fileEvent, he, hskip]

/-- The step of the first pass at a file that ends it. -/
lemma absorb_of_not_goesOn {path : String} (h : ¬ goesOn policy extract path)
    (acc : Accumulator) :
    ∃ e, extract path = .error e ∧ acc.absorb policy path (extract path) = .error e := by
  unfold goesOn at h
  cases he : extract path with
  | ok units => rw [he] at h; exact absurd rfl h
  | error e =>
    rw [he] at h
    have hstop : ¬ (policy = .skip ∧ e.isPerFile) := fun hskip => h (decide_eq_true hskip)
    exact ⟨e, rfl, by rw [Accumulator.absorb, if_neg hstop]⟩

/-! ## The first pass -/

/-- The run of the first pass: it collects the files before the first one that ends it, and
ends with the error of that one.

**Proof sketch.** Induction on the files, for every accumulator. Behind a file where the pass
goes on, the accumulator has grown by that file, and `Accumulator.after_cons` joins the two. At
any other file both sides stop. -/
lemma absorbEach_eq (acc : Accumulator) (paths : List String) :
    absorbEach policy extract acc paths =
      (acc.after extract (paths.takeWhile (goesOn policy extract)),
        (paths.dropWhile (goesOn policy extract)).head?.bind (fileError? extract)) := by
  induction paths generalizing acc with
  | nil => simp [absorbEach, Accumulator.after]
  | cons path paths ih =>
    by_cases h : goesOn policy extract path
    · rw [absorbEach, absorb_of_goesOn h]
      simp only [ih, Accumulator.after_cons, List.takeWhile_cons, List.dropWhile_cons, h, if_true]
    · obtain ⟨e, he, hstep⟩ := absorb_of_not_goesOn h acc
      rw [absorbEach, hstep]
      simp [h, fileError?, he, Accumulator.after]

/-- Taking in results that are already there is extracting file after file: no result depends on
what has been taken in before. -/
lemma absorbAll_map (acc : Accumulator) (paths : List String) :
    absorbAll policy acc (paths.map fun path => (path, extract path)) =
      absorbEach policy extract acc paths := by
  induction paths generalizing acc with
  | nil => rfl
  | cons path paths ih =>
    simp only [List.map_cons, absorbAll, absorbEach]
    cases acc.absorb policy path (extract path) with
    | ok acc' => exact ih acc'
    | error e => rfl

/-- **The first pass**, with parallel extraction or without: it collects the files before the
first one that ends it, and ends with the error of that one. -/
lemma firstPass_eq (options : CatalogOptions) (paths : List String) :
    firstPass options extract paths =
      (Accumulator.after extract {} (paths.takeWhile (goesOn options.onParseError extract)),
        (paths.dropWhile (goesOn options.onParseError extract)).head?.bind
          (fileError? extract)) := by
  unfold firstPass
  split
  · rw [absorbAll_map, absorbEach_eq]
  · exact absorbEach_eq _ _

/-- The first pass over files behind each of which it goes on takes all of them in. -/
lemma firstPass_of_forall_goesOn {options : CatalogOptions} {paths : List String}
    (h : ∀ path ∈ paths, goesOn options.onParseError extract path) :
    firstPass options extract paths = (Accumulator.after extract {} paths, none) := by
  have htake : paths.takeWhile (goesOn options.onParseError extract) = paths :=
    List.takeWhile_eq_self_iff.mpr h
  have hdrop : paths.dropWhile (goesOn options.onParseError extract) = [] :=
    List.dropWhile_eq_nil_iff.mpr h
  rw [firstPass_eq, htake, hdrop]
  rfl

/-- The first pass over files one of which ends it: it takes the files before the first such one
in, and ends with the error of that one. -/
lemma firstPass_of_not_forall_goesOn {options : CatalogOptions} {paths : List String}
    (h : ¬ ∀ path ∈ paths, goesOn options.onParseError extract path) :
    ∃ good bad rest e, paths = good ++ bad :: rest ∧
      (∀ path ∈ good, goesOn options.onParseError extract path) ∧
      ¬ goesOn options.onParseError extract bad ∧ extract bad = .error e ∧
      firstPass options extract paths = (Accumulator.after extract {} good, some e) := by
  set p := goesOn options.onParseError extract with hp
  obtain ⟨bad, rest, hdrop⟩ : ∃ bad rest, paths.dropWhile p = bad :: rest :=
    List.exists_cons_of_ne_nil fun hnil => h (List.dropWhile_eq_nil_iff.mp hnil)
  have hbad : ¬ p bad := by
    have hhead := List.head_dropWhile_not p (l := paths) (by simp [hdrop])
    simpa [hdrop] using hhead
  obtain ⟨e, he, -⟩ := absorb_of_not_goesOn hbad {}
  refine ⟨paths.takeWhile p, bad, rest, e, ?_, ?_, hbad, he, ?_⟩
  · rw [← hdrop, List.takeWhile_append_dropWhile]
  · intro path hpath
    exact (List.all_eq_true.mp List.all_takeWhile) path hpath
  · rw [firstPass_eq, ← hp, hdrop]
    simp [fileError?, he]

end Files

/-! ## The second pass -/

section Records

variable (count : String → Nat)

/-- The second pass keeps the units and their order. -/
lemma map_unit_enrich (first : Nat) (units : List CodeUnit) :
    (enrich count first units).map (·.unit) = units := by
  induction units generalizing first with
  | nil => rfl
  | cons unit units ih => simp only [enrich, List.map_cons, ih]

/-- The second pass numbers the units one after the other. -/
lemma map_identity_enrich (first : Nat) (units : List CodeUnit) :
    (enrich count first units).map (·.identity) = List.range' first units.length := by
  induction units generalizing first with
  | nil => rfl
  | cons unit units ih =>
    simp only [enrich, List.map_cons, ih, List.length_cons, List.range'_succ]

/-- The second pass counts the tokens of each record's own text. -/
lemma tokenCount_of_mem_enrich {first : Nat} {units : List CodeUnit} {r : Record}
    (h : r ∈ enrich count first units) : r.tokenCount = count r.unit.sourceText := by
  induction units generalizing first with
  | nil => cases h
  | cons unit units ih =>
    rcases List.mem_cons.mp h with rfl | h
    · rfl
    · exact ih h

/-- What a build over files yields. -/
def outcomeOf (extract : String → Except Error (List CodeUnit)) (paths : List String) :
    BuildOutcome :=
  let records := enrich count 0 (paths.flatMap (fileUnits extract))
  { filesProcessed := (paths.filter (isExtracted extract)).length
    recordCount := records.length
    skippedFiles := paths.filterMap (skippedFile? extract)
    records }

variable (extract : String → Except Error (List CodeUnit)) (paths : List String)

/-- The end of a build whose first pass went over all files. -/
lemma secondPass_after_none :
    secondPass count (Accumulator.after extract {} paths, none) =
      ⟨paths.map (fileEvent extract) ++ (outcomeOf count extract paths).records.map .enriched,
        .ok (outcomeOf count extract paths)⟩ := by
  simp [secondPass, Accumulator.after, outcomeOf]

/-- The end of a build whose first pass failed. -/
lemma secondPass_after_some (e : Error) :
    secondPass count (Accumulator.after extract {} paths, some e) =
      ⟨paths.map (fileEvent extract), .error e⟩ := by
  simp [secondPass, Accumulator.after]

end Records

/-! ## Builds -/

/-- Every error of a source file concerns that file only, whatever makes the trees. -/
lemma isPerFile_of_extractFile {make : Python.TreeMaker} {fs : FileSystem} {path : String}
    {e : Error} (h : extractFile make fs path = .error e) : e.isPerFile := by
  unfold extractFile at h
  split at h
  · cases h; rfl
  · split at h
    · cases h; rfl
    · dsimp only at h
      split at h
      · cases h; rfl
      · cases h

/-- When files are left out, the first pass goes on behind every source file. -/
lemma goesOn_skip_extractFile (make : Python.TreeMaker) (fs : FileSystem) (path : String) :
    goesOn .skip (extractFile make fs) path := by
  unfold goesOn
  cases h : extractFile make fs path with
  | ok units => rfl
  | error e => exact decide_eq_true ⟨rfl, isPerFile_of_extractFile h⟩

section Builds

variable {make : Python.TreeMaker} {fs : FileSystem} {env : Environment} {config : Config}
  {count : String → Nat} {root : String} {entries : List (Except DiscoveryError String)}

/-- A build in which the first pass goes on behind every file succeeds. -/
lemma build_of_forall_goesOn (hd : discover fs env config.discovery root = .ok entries)
    (h : ∀ path ∈ visited entries, goesOn config.catalog.onParseError (extractFile make fs) path) :
    build make fs env config count root =
      ⟨(visited entries).map (fileEvent (extractFile make fs)) ++
          (outcomeOf count (extractFile make fs) (visited entries)).records.map .enriched,
        .ok (outcomeOf count (extractFile make fs) (visited entries))⟩ := by
  simp only [build, hd]
  rw [firstPass_of_forall_goesOn h, secondPass_after_none]

/-- A build in which a file ends the first pass fails with the error of the first such file,
when the files before it have been reported. -/
lemma build_of_not_forall_goesOn (count : String → Nat)
    (hd : discover fs env config.discovery root = .ok entries)
    (h : ¬ ∀ path ∈ visited entries,
      goesOn config.catalog.onParseError (extractFile make fs) path) :
    ∃ good bad rest e, visited entries = good ++ bad :: rest ∧
      (∀ path ∈ good, goesOn config.catalog.onParseError (extractFile make fs) path) ∧
      ¬ goesOn config.catalog.onParseError (extractFile make fs) bad ∧
      extractFile make fs bad = .error e ∧
      build make fs env config count root =
        ⟨good.map (fileEvent (extractFile make fs)), .error e⟩ := by
  obtain ⟨good, bad, rest, e, hsplit, hgood, hbad, he, hpass⟩ := firstPass_of_not_forall_goesOn h
  refine ⟨good, bad, rest, e, hsplit, hgood, hbad, he, ?_⟩
  simp only [build, hd]
  rw [hpass, secondPass_after_some]

/-- **When a build succeeds, and with what**: the directory can be walked, the first pass goes
on behind every file, and the outcome is that of all files. -/
lemma build_result_eq_ok_iff {out : BuildOutcome} :
    (build make fs env config count root).result = .ok out ↔
      ∃ entries, discover fs env config.discovery root = .ok entries ∧
        (∀ path ∈ visited entries, goesOn config.catalog.onParseError (extractFile make fs) path) ∧
        out = outcomeOf count (extractFile make fs) (visited entries) := by
  constructor
  · intro h
    cases hd : discover fs env config.discovery root with
    | error e => simp [build, hd] at h
    | ok entries =>
      by_cases hall :
          ∀ path ∈ visited entries, goesOn config.catalog.onParseError (extractFile make fs) path
      · rw [build_of_forall_goesOn hd hall] at h
        exact ⟨entries, rfl, hall, (Except.ok.inj h).symm⟩
      · obtain ⟨good, bad, rest, e, -, -, -, -, hrun⟩ :=
          build_of_not_forall_goesOn count hd hall
        rw [hrun] at h
        cases h
  · rintro ⟨entries, hd, hall, rfl⟩
    rw [build_of_forall_goesOn hd hall]

end Builds

end CodeCatalog
