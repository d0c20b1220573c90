import CodeCatalog.Collection.Lines

/-!
# Loading catalogs into collections

## Main definitions

* `CodeCatalog.Sink` — anything that documents can be added to.
* `CodeCatalog.loadCatalog` — adding the documents of a catalog.
-/

namespace CodeCatalog

/-- How documents are added to something with a state, and made to stay. -/
structure Sink (σ : Type) where
  add : σ → Document → σ × Except SinkError Unit
  flush : σ → σ × Except SinkError Unit

/-- Collections in memory. -/
def MemoryCollection.sink : Sink MemoryCollection where
  add c d := match c.add d with
    | .ok c => (c, .ok ())
    | .error e => (c, .error e)
  flush c := (c, .ok ())

/-- Collections in files. -/
def LineCollection.sink : Sink (FileSystem × LineCollection) where
  add s d := LineCollection.add s.1 s.2 d
  flush s := LineCollection.flush s.1 s.2

/-- How many documents were added, and why others were not. -/
structure LoadReport where
  added : Nat
  failures : List SinkError
deriving Repr, BEq, DecidableEq, Inhabited

/-- The result of adding a document. -/
abbrev Addition := Document × Except SinkError Unit

/-- Adds documents one after the other: the last state, and the result for each document. -/
def addAll (sink : Sink σ) : σ → List Document → σ × List Addition
  | s, [] => (s, [])
  | s, d :: ds =>
    let (s, result) := sink.add s d
    let (s, results) := addAll sink s ds
    (s, (d, result) :: results)

/-- The report of results. -/
def LoadReport.ofAdditions (results : List Addition) : LoadReport where
  added := (results.filter fun r => r.2.toBool).length
  failures := results.filterMap fun r => match r.2 with
    | .ok () => none
    | .error e => some e

/-- A load: the state it leaves, the result for each document, and how it ended. -/
structure LoadRun (σ : Type) where
  state : σ
  additions : List Addition
  result : Except SinkError LoadReport

/-- Adds the documents of a catalog and makes them stay. -/
def loadCatalog (sink : Sink σ) (s : σ) (c : Catalog) : LoadRun σ :=
  let (s, additions) := addAll sink s c.documents
  let (s, flushed) := sink.flush s
  match flushed with
  | .ok () => ⟨s, additions, .ok (.ofAdditions additions)⟩
  | .error e => ⟨s, additions, .error e⟩

end CodeCatalog
