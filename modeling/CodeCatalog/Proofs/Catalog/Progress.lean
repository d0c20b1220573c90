import Mathlib.Algebra.GroupWithZero.Nat
import Mathlib.Data.List.Forall2
import CodeCatalog.Proofs.Catalog.Outcome

/-!
# What the events of a build tell

A build reports an event for every file that it goes over and then one for every record. The
events agree with the outcome: they say how many units there are and which files are left out, and
a build that fails has reported the files before the one that ended it, and nothing else.

## Main definitions

* `CodeCatalog.BuildEvent.IsAbout` — the events of the first pass, and the files they are about.
* `CodeCatalog.BuildEvent.unitCount`, `leftOut?` — what an event says.

## Main results

* `CodeCatalog.forall₂_isAbout` — the events about files, one for each in their order.
* `CodeCatalog.sum_unitCount_fileEvent`, `filterMap_leftOut?_fileEvent` — what these events say in
  all.
* `CodeCatalog.build_events_cases` — the events of every build.
-/

namespace CodeCatalog

namespace BuildEvent

/-- The events of the first pass, and the files they are about: a file has been processed, or it
is left out because of an error that the policy lets pass. -/
inductive IsAbout (policy : ParseErrorPolicy) (extract : String → Except Error (List CodeUnit)) :
    BuildEvent → String → Prop
  | processed {path : String} {units : List CodeUnit} (h : extract path = .ok units) :
      IsAbout policy extract (.processed path units.length) path
  | skipped {path : String} {e : Error} (h : extract path = .error e)
      (hskip : policy = .skip ∧ e.isPerFile) :
      IsAbout policy extract (.skipped path e.message) path

/-- The number of units that an event adds. -/
def unitCount : BuildEvent → Nat
  | .processed _ units => units
  | _ => 0

/-- The file that an event says is left out, and why. -/
def leftOut? : BuildEvent → Option SkippedFile
  | .skipped path reason => some ⟨path, reason⟩
  | _ => none

end BuildEvent

/-! ## The events about files -/

section Files

variable (extract : String → Except Error (List CodeUnit))

/-- The event of a file behind which the build goes on is about this file. -/
lemma isAbout_fileEvent {policy : ParseErrorPolicy} {path : String}
    (hgoes : goesOn policy extract path) :
    (fileEvent extract path).IsAbout policy extract path := by
  unfold goesOn at hgoes
  unfold fileEvent
  cases h : extract path with
  | ok units => exact .processed h
  | error e =>
    rw [h] at hgoes
    exact .skipped h (of_decide_eq_true hgoes)

/-- The event of a file has the number of its units. -/
lemma unitCount_fileEvent (path : String) :
    (fileEvent extract path).unitCount = (fileUnits extract path).length := by
  unfold fileEvent fileUnits
  cases extract path with
  | ok units => rfl
  | error e => rfl

/-- The event of a file says whether it is left out, and why. -/
lemma leftOut?_fileEvent (path : String) :
    (fileEvent extract path).leftOut? = skippedFile? extract path := by
  unfold fileEvent skippedFile? fileError?
  cases extract path with
  | ok units => rfl
  | error e => rfl

/-- **One event for every file, in their order**, while the first pass goes on. -/
lemma forall₂_isAbout {policy : ParseErrorPolicy} {paths : List String}
    (hgoes : ∀ path ∈ paths, goesOn policy extract path) :
    List.Forall₂ (BuildEvent.IsAbout policy extract) (paths.map (fileEvent extract)) paths := by
  rw [List.forall₂_map_left_iff, List.forall₂_same]
  intro path hpath
  exact isAbout_fileEvent extract (hgoes path hpath)

/-- The events about files count the units of these files, whether others follow or not. -/
lemma sum_unitCount_fileEvent (paths : List String) :
    ((paths.map (fileEvent extract)).map BuildEvent.unitCount).sum =
      (paths.flatMap (fileUnits extract)).length := by
  rw [List.map_map, List.length_flatMap]
  congr 1
  exact List.map_congr_left fun path _ => unitCount_fileEvent extract path

/-- The events about files name those that are left out, in their order. -/
lemma filterMap_leftOut?_fileEvent (paths : List String) :
    (paths.map (fileEvent extract)).filterMap BuildEvent.leftOut? =
      paths.filterMap (skippedFile? extract) := by
  rw [List.filterMap_map]
  exact List.filterMap_congr fun path _ => leftOut?_fileEvent extract path

end Files

/-! ## The events of a build -/

/-- **The events of every build.** A build that succeeds reports one event for every discovered
file, in the order of discovery, and then one for every record, in the order of their numbers and
with the number and the count of tokens that the record has in the end. The numbers of units in
the events about files add up to the number of records, and the files that these events say are
left out are those of the summary, entry by entry. A build whose directory cannot be walked reports
nothing. A build that a file ends has reported one event for every file before that one, and none
about records; files end a build only where the policy says so.

**Proof sketch.** The first pass reports the events of the files that it has taken in
(`firstPass_eq`), whether it goes over all of them or is cut short, and what these events say in
all is known for every list of files. -/
theorem build_events_cases (make : Python.TreeMaker) (fs : FileSystem) (env : Environment)
    (config : Config) (count : String → Nat) (root : String) :
    (∃ entries out log, discover fs env config.discovery root = .ok entries ∧
        build make fs env config count root = ⟨log ++ out.records.map .enriched, .ok out⟩ ∧
        List.Forall₂ (BuildEvent.IsAbout config.catalog.onParseError (extractFile make fs)) log
          (visited entries) ∧
        (log.map BuildEvent.unitCount).sum = out.records.length ∧
        log.filterMap BuildEvent.leftOut? = out.skippedFiles ∧
        out.records.map (·.identity) = List.range out.records.length ∧
        ∀ r ∈ out.records, r.tokenCount = count r.unit.sourceText) ∨
      (∃ e, discover fs env config.discovery root = .error e ∧
        build make fs env config count root = ⟨[], .error (.discovery e)⟩) ∨
      ∃ entries before bad after e log, discover fs env config.discovery root = .ok entries ∧
        visited entries = before ++ bad :: after ∧ extractFile make fs bad = .error e ∧
        config.catalog.onParseError = .abort ∧
        build make fs env config count root = ⟨log, .error e⟩ ∧
        List.Forall₂ (BuildEvent.IsAbout .abort (extractFile make fs)) log before := by
  cases hd : discover fs env config.discovery root with
  | error e =>
    right; left
    refine ⟨e, rfl, ?_⟩
    simp only [build, hd]
  | ok entries =>
    by_cases hall :
        ∀ path ∈ visited entries, goesOn config.catalog.onParseError (extractFile make fs) path
    · left
      have haccounts := outcomeOf_accountsFor count (extractFile make fs) (visited entries)
      refine ⟨entries, outcomeOf count (extractFile make fs) (visited entries),
        (visited entries).map (fileEvent (extractFile make fs)), rfl,
        build_of_forall_goesOn hd hall,
        forall₂_isAbout (extractFile make fs) hall, ?_,
        filterMap_leftOut?_fileEvent (extractFile make fs) (visited entries), haccounts.identity,
        haccounts.tokenCount⟩
      have hunits := congrArg List.length haccounts.units
      rw [List.length_map, flatMap_fileUnits_filter] at hunits
      rw [sum_unitCount_fileEvent, hunits]
    · right; right
      obtain ⟨before, bad, after, e, hsplit, hbefore, hbad, he, hrun⟩ :=
        build_of_not_forall_goesOn count hd hall
      have hpolicy : config.catalog.onParseError = .abort := by
        cases hpolicy : config.catalog.onParseError with
        | abort => rfl
        | skip =>
          rw [hpolicy] at hbad
          exact absurd (goesOn_skip_extractFile make fs bad) hbad
      rw [hpolicy] at hbefore
      exact ⟨entries, before, bad, after, e, _, rfl, hsplit, he, hpolicy, hrun,
        forall₂_isAbout (extractFile make fs) hbefore⟩

end CodeCatalog
