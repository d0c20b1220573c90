import CodeCatalog.Config.Basic
import CodeCatalog.Python.Parser
import CodeCatalog.Units.Extract

/-!
# Building catalogs

A build has two passes. The first goes through the source files of a directory and collects
their units; a file that cannot be read or parsed ends the build or is left out, as the policy
says. The second numbers the units and counts their tokens.

## Main definitions

* `CodeCatalog.extractFile` — the units of a source file.
* `CodeCatalog.BuildEvent` — what a build reports while it runs.
* `CodeCatalog.absorbEach`, `CodeCatalog.absorbAll` — the first pass, file by file or over
  results that are already there.
* `CodeCatalog.enrich` — the numbers and token counts of the second pass.
* `CodeCatalog.firstPass`, `CodeCatalog.secondPass`, `CodeCatalog.build` — the passes, and both.
-/

namespace CodeCatalog

/-! ## One file -/

/-- The units of a source file. -/
def extractFile (make : Python.TreeMaker) (fs : FileSystem) (path : String) :
    Except Error (List CodeUnit) :=
  match fs.read path with
  | .error e => .error (.catalogIo (.fileReadFailed path e.message))
  | .ok bytes =>
    match Text.decode bytes with
    | .error fault =>
      .error (.catalogIo (.fileReadFailed path s!"not valid UTF-8: {fault.message}"))
    | .ok text =>
      let source := Text.dropMark text
      match Python.parse make path source with
      | .error e => .error (.parse e)
      | .ok root => .ok (extractUnits path source root)

/-! ## The first pass -/

/-- What a build reports while it runs. -/
inductive BuildEvent where
  | processed (path : String) (units : Nat)
  | skipped (path reason : String)
  | enriched (record : Record)
deriving Repr, BEq, DecidableEq, Inhabited

/-- A file that was left out, and why. -/
structure SkippedFile where
  path : String
  reason : String
deriving Repr, BEq, DecidableEq, Inhabited

/-- What the first pass has collected; all lists are in reverse order. -/
structure Accumulator where
  units : List CodeUnit := []
  filesProcessed : Nat := 0
  skippedFiles : List SkippedFile := []
  events : List BuildEvent := []
deriving Repr, BEq, DecidableEq, Inhabited

/-- Takes the result of a file in. -/
def Accumulator.absorb (policy : ParseErrorPolicy) (acc : Accumulator) (path : String) :
    Except Error (List CodeUnit) → Except Error Accumulator
  | .ok units => .ok { acc with
      units := units.reverse ++ acc.units
      filesProcessed := acc.filesProcessed + 1
      events := .processed path units.length :: acc.events }
  | .error e =>
    if policy = .skip ∧ e.isPerFile then .ok { acc with
      skippedFiles := ⟨path, e.message⟩ :: acc.skippedFiles
      events := .skipped path e.message :: acc.events }
    else .error e

/-- Extracts file after file and takes each result in, up to the first that ends the build.
What was collected until then is kept. -/
def absorbEach (policy : ParseErrorPolicy) (extract : String → Except Error (List CodeUnit)) :
    Accumulator → List String → Accumulator × Option Error
  | acc, [] => (acc, none)
  | acc, path :: paths =>
    match acc.absorb policy path (extract path) with
    | .ok acc => absorbEach policy extract acc paths
    | .error e => (acc, some e)

/-- Takes results in that are already there, up to the first that ends the build. -/
def absorbAll (policy : ParseErrorPolicy) :
    Accumulator → List (String × Except Error (List CodeUnit)) → Accumulator × Option Error
  | acc, [] => (acc, none)
  | acc, (path, result) :: results =>
    match acc.absorb policy path result with
    | .ok acc => absorbAll policy acc results
    | .error e => (acc, some e)

/-! ## The second pass -/

/-- Numbers units from a first number on, and counts their tokens. -/
def enrich (count : String → Nat) : Nat → List CodeUnit → List Record
  | _, [] => []
  | identity, unit :: units =>
    ⟨identity, unit, count unit.sourceText⟩ :: enrich count (identity + 1) units

/-! ## The build -/

/-- The summary of a build. -/
structure BuildReport where
  filesProcessed : Nat
  recordCount : Nat
  skippedFiles : List SkippedFile
deriving Repr, BEq, DecidableEq, Inhabited

/-- What a build yields: the records of the catalog, and the summary. -/
structure BuildOutcome extends BuildReport where
  records : List Record
deriving Repr, BEq, DecidableEq, Inhabited

/-- A build: what it reported, and how it ended. -/
structure BuildRun where
  events : List BuildEvent
  result : Except Error BuildOutcome

/-- The paths of a walk; entries that could not be visited are passed over. -/
def visited (entries : List (Except DiscoveryError String)) : List String :=
  entries.filterMap Except.toOption

/-- The first pass over source files; with parallel extraction all results are there before the
first is taken in. -/
def firstPass (options : CatalogOptions) (extract : String → Except Error (List CodeUnit))
    (paths : List String) : Accumulator × Option Error :=
  if options.parallelExtraction then
    absorbAll options.onParseError {} (paths.map fun path => (path, extract path))
  else absorbEach options.onParseError extract {} paths

/-- The end of a build behind its first pass: the second pass, unless the first one failed. -/
def secondPass (count : String → Nat) : Accumulator × Option Error → BuildRun
  | (acc, some e) => ⟨acc.events.reverse, .error e⟩
  | (acc, none) =>
    let records := enrich count 0 acc.units.reverse
    ⟨acc.events.reverse ++ records.map .enriched,
      .ok {
        filesProcessed := acc.filesProcessed
        recordCount := records.length
        skippedFiles := acc.skippedFiles.reverse
        records }⟩

/-- Builds the catalog of a directory. -/
def build (make : Python.TreeMaker) (fs : FileSystem) (env : Environment) (config : Config)
    (count : String → Nat) (root : String) : BuildRun :=
  match discover fs env config.discovery root with
  | .error e => ⟨[], .error (.discovery e)⟩
  | .ok entries =>
    secondPass count (firstPass config.catalog (extractFile make fs) (visited entries))

end CodeCatalog
