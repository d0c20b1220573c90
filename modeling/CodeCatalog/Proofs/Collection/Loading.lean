import CodeCatalog.Cli.Session
import CodeCatalog.Proofs.Catalog.Outcome
import CodeCatalog.Proofs.Catalog.RoundTrip
import CodeCatalog.Proofs.Collection.Agreement
import CodeCatalog.Proofs.Files.Below
import CodeCatalog.Proofs.Files.Frame

/-!
# From a directory to a collection

The catalog of a directory is written to a file, read back, and loaded into a collection file.
Nothing gets lost on the way: the records have their places as numbers, so their documents have
different ids and flat data, and every document is accepted and found in the collection file.

## Main definitions

* `CodeCatalog.Catalog.Numbered` — a catalog in which the number of a record is its place.

## Main results

* `CodeCatalog.Record.flat_toDocument` — the data of a record is flat.
* `CodeCatalog.LineCollection.Stores.addAll` — documents with new ids are all added.
* `CodeCatalog.Catalog.readFrom_of_writeTo` — a written catalog is read back.
* `CodeCatalog.Catalog.Numbered.get?_eq` — the record with a number is the one at its place.
* `CodeCatalog.load_of_build` — every record of a build arrives in the collection.
-/

namespace CodeCatalog

open Json

/-! ## Documents of records -/

section Members

variable {α : Type}

/-- What is inserted is a member afterwards, and nothing else is new. -/
lemma mem_insertMember {key : String} {v : α} {ms : List (String × α)} {m : String × α}
    (h : m ∈ insertMember key v ms) : m = (key, v) ∨ m ∈ ms := by
  induction ms with
  | nil => exact Or.inl (List.mem_singleton.mp h)
  | cons m' ms ih =>
    obtain ⟨k, w⟩ := m'
    rw [insertMember] at h
    split_ifs at h with hlt heq
    · exact (List.mem_cons.mp h)
    · rcases List.mem_cons.mp h with rfl | hm
      · exact Or.inl (by rw [heq])
      · exact Or.inr (List.mem_cons_of_mem _ hm)
    · rcases List.mem_cons.mp h with rfl | hm
      · exact Or.inr List.mem_cons_self
      · exact (ih hm).imp_right (List.mem_cons_of_mem _)

/-- A member is put at the place of its key. -/
lemma pairwise_insertMember {key : String} {v : α} {ms : List (String × α)}
    (h : ms.Pairwise (·.1 < ·.1)) : (insertMember key v ms).Pairwise (·.1 < ·.1) := by
  induction ms with
  | nil => exact List.pairwise_singleton _ _
  | cons m ms ih =>
    obtain ⟨k, w⟩ := m
    obtain ⟨hfirst, hrest⟩ := List.pairwise_cons.mp h
    rw [insertMember]
    split_ifs with hlt heq
    · refine List.pairwise_cons.mpr ⟨fun m hm => ?_, h⟩
      rcases List.mem_cons.mp hm with rfl | hm
      · exact hlt
      · exact String.lt_trans hlt (hfirst m hm)
    · exact List.pairwise_cons.mpr ⟨hfirst, hrest⟩
    · -- the new key is neither before nor equal to the first one, so it comes behind it
      refine List.pairwise_cons.mpr ⟨fun m hm => ?_, ih hrest⟩
      rcases mem_insertMember hm with rfl | hm
      · by_contra hge
        exact heq (String.le_antisymm (String.not_lt.mp hge) (String.not_lt.mp hlt))
      · exact hfirst m hm

/-- Members that are put in one after the other are in order, and each is one of them. -/
lemma foldl_insertMember (facts taken : List (String × α)) (h : taken.Pairwise (·.1 < ·.1)) :
    (facts.foldl (fun ms m => insertMember m.1 m.2 ms) taken).Pairwise (·.1 < ·.1) ∧
      ∀ m ∈ facts.foldl (fun ms m => insertMember m.1 m.2 ms) taken, m ∈ facts ∨ m ∈ taken := by
  induction facts generalizing taken with
  | nil => exact ⟨h, fun m hm => Or.inr hm⟩
  | cons fact facts ih =>
    obtain ⟨hordered, hmem⟩ := ih (insertMember fact.1 fact.2 taken) (pairwise_insertMember h)
    refine ⟨hordered, fun m hm => ?_⟩
    rcases hmem m hm with hm | hm
    · exact Or.inl (List.mem_cons_of_mem _ hm)
    · rcases mem_insertMember hm with rfl | hm
      · exact Or.inl List.mem_cons_self
      · exact Or.inr hm

end Members

namespace Record

/-- The data of a record are texts and whole numbers. -/
lemma fits_facts {r : Record} (hr : ∀ n ∈ r.numbers, n ≤ maxNatural) :
    ∀ m ∈ r.facts, m.2.Fits 0 := by
  simp only [Record.numbers, CodeUnit.numbers, List.forall_mem_cons] at hr
  obtain ⟨hidentity, htokens, hstartLine, hendLine, hstartCol, hendCol⟩ := hr
  simp only [Record.facts, List.forall_mem_append, List.forall_mem_cons]
  refine ⟨⟨⟨⟨⟨⟨.natural _ hidentity, .string _ _, .string _ _, .string _ _,
    List.forall_mem_nil _⟩, ?_⟩, ?_⟩, .string _ _, .natural _ hstartLine, .natural _ hendLine,
    .natural _ hstartCol, List.forall_mem_nil _⟩, ?_⟩, .natural _ htokens, List.forall_mem_nil _⟩
  · split
    · exact List.forall_mem_singleton.mpr (.string _ _)
    · exact List.forall_mem_nil _
  · split
    · exact List.forall_mem_singleton.mpr (.string _ _)
    · exact List.forall_mem_nil _
  · split
    · rename_i n hn
      exact List.forall_mem_singleton.mpr (.natural _ (hendCol n (by simp [hn])))
    · exact List.forall_mem_nil _

/-- **The data of a record is flat.** -/
lemma flat_toDocument {r : Record} (hr : ∀ n ∈ r.numbers, n ≤ maxNatural) : r.toDocument.Flat := by
  obtain ⟨hordered, hmem⟩ := foldl_insertMember r.facts [] .nil
  refine ⟨hordered, fun m hm => ?_⟩
  exact fits_facts hr m ((hmem m hm).resolve_right List.not_mem_nil)

end Record

/-- Different numbers have different texts, since the digits of a number give it back. -/
lemma toString_nat_injective : Function.Injective (toString : Nat → String) :=
  Function.LeftInverse.injective (g := fun s : String => Nat.ofDigitChars 10 s.toList 0) fun n => by
    simp only [Nat.toString_eq_repr, Nat.toList_repr, Nat.ofDigitChars_ten_toDigits]

/-! ## Catalogs in files -/

namespace Catalog

/-- A catalog in which the number of a record is its place. -/
def Numbered (c : Catalog) : Prop := c.records.map (·.identity) = List.range c.records.length

/-- The number of a record of a numbered catalog is its place. -/
lemma Numbered.identity_eq {c : Catalog} (h : c.Numbered) {i : Nat} (hi : i < c.records.length) :
    c.records[i].identity = i := by
  have hget := congrArg (·[i]?) h
  simpa [hi] using hget

/-- The record with a number is the one at its place; there are no others. -/
lemma Numbered.get?_eq {c : Catalog} (h : c.Numbered) (i : Nat) : c.get? i = c.records[i]? := by
  unfold get?
  by_cases hi : i < c.records.length
  · simp [hi, h.identity_eq hi]
  · have hnone : c.records[i]? = none := List.getElem?_eq_none (Nat.le_of_not_lt hi)
    rw [hnone, get?.search, List.find?_eq_none]
    intro r hr hidentity
    have hmem : r.identity ∈ List.range c.records.length := h ▸ List.mem_map_of_mem hr
    rw [beq_iff_eq.mp hidentity] at hmem
    exact hi (List.mem_range.mp hmem)

/-- The documents of a numbered catalog have different ids. -/
lemma Numbered.nodup_ids {c : Catalog} (h : c.Numbered) : (c.documents.map (·.id)).Nodup := by
  have hids : c.documents.map (·.id) = (c.records.map (·.identity)).map toString := by
    rw [documents, List.map_map, List.map_map]
    rfl
  rw [hids, h]
  exact List.nodup_range.map toString_nat_injective

/-- The text of a catalog is not empty. -/
lemma toUTF8_toJson_ne (c : Catalog) (pretty : Bool) :
    (c.toJson pretty).toUTF8.isEmpty = false := by
  apply Text.isEmpty_toUTF8
  intro hempty
  have hlist := congrArg String.toList hempty
  rw [toJson, Value.text, String.toList_ofList, Value.write] at hlist
  cases hlist

/-- **A written catalog is read back.** -/
lemma readFrom_of_writeTo {fs fs' : FileSystem} {c : Catalog} {path : String} {pretty : Bool}
    (hc : c.Bounded) (h : c.writeTo fs path pretty = (fs', .ok ())) :
    Catalog.readFrom fs' path = .ok c := by
  unfold writeTo at h
  split at h
  · cases h
  · split at h
    · cases h
    · rename_i hwrite
      cases h
      have hread := FileSystem.read_of_write hwrite (c.toUTF8_toJson_ne pretty)
      have hjson : Json.readAll readRecords (c.toJson pretty) = .ok c.records :=
        (reads_records (if pretty then .indented else .compact) hc).readAll
      simp only [Catalog.readFrom, FileSystem.readText, hread, Text.fromUTF8?_toUTF8, ofJson,
        hjson, Except.map]

end Catalog

/-! ## Loading -/

/-- **Documents with new ids are all added**, behind those that are there. -/
lemma LineCollection.Stores.addAll {fs : FileSystem} {c : LineCollection}
    {ds : List Document} (h : c.Stores fs ds) (more : List Document)
    (hnodup : ((ds ++ more).map (·.id)).Nodup) (hflat : ∀ d ∈ more, d.Flat) :
    ∃ fs' c', CodeCatalog.addAll LineCollection.sink (fs, c) more =
        ((fs', c'), more.map fun d => (d, .ok ())) ∧
      c'.path = c.path ∧ c'.Stores fs' (ds ++ more) := by
  induction more generalizing fs c ds with
  | nil => exact ⟨fs, c, rfl, rfl, by rwa [List.append_nil]⟩
  | cons d more ih =>
    have hnew : d.id ∉ ds.map (·.id) := by
      rw [List.map_append, List.map_cons, List.nodup_append] at hnodup
      exact fun hmem => hnodup.2.2 d.id hmem d.id List.mem_cons_self rfl
    obtain ⟨fs₁, c₁, hadd, hpath₁, hstores₁⟩ := h.add_new (hflat d List.mem_cons_self) hnew
    obtain ⟨fs₂, c₂, hmore, hpath₂, hstores₂⟩ := ih hstores₁ (by simpa using hnodup)
      fun d hd => hflat d (List.mem_cons_of_mem _ hd)
    refine ⟨fs₂, c₂, ?_, hpath₂.trans hpath₁, by simpa using hstores₂⟩
    have hfirst : LineCollection.sink.add (fs, c) d = ((fs₁, c₁), .ok ()) := by
      simp only [LineCollection.sink, hadd]
    exact addAll_cons hfirst hmore

/-- When every document was added, the report says so. -/
lemma LoadReport.ofAdditions_ok (ds : List Document) :
    LoadReport.ofAdditions (ds.map fun d => (d, .ok ())) = ⟨ds.length, []⟩ := by
  have hall : (ds.map fun d => ((d, .ok ()) : Addition)).filter (fun r => r.2.toBool) =
      ds.map fun d => (d, .ok ()) := by
    refine List.filter_eq_self.mpr fun r hr => ?_
    obtain ⟨d, -, rfl⟩ := List.mem_map.mp hr
    rfl
  rw [LoadReport.ofAdditions, hall, List.length_map, LoadReport.mk.injEq]
  refine ⟨rfl, List.filterMap_eq_nil_iff.mpr fun r hr => ?_⟩
  obtain ⟨d, -, rfl⟩ := List.mem_map.mp hr
  rfl

/-- A numbered catalog is loaded into a new collection file as a whole. -/
lemma loadCatalog_of_numbered {c : Catalog} (hnumbered : c.Numbered) (hbounded : c.Bounded)
    {fs : FileSystem} {collection : LineCollection} (h : collection.Stores fs []) :
    ∃ fs' collection', loadCatalog LineCollection.sink (fs, collection) c =
        ⟨(fs', collection'), c.documents.map fun d => (d, .ok ()), .ok ⟨c.size, []⟩⟩ ∧
      LineCollection.readDocuments fs' collection.path = .ok c.documents := by
  have hflat : ∀ d ∈ c.documents, d.Flat := by
    intro d hd
    obtain ⟨r, hr, rfl⟩ := List.mem_map.mp hd
    exact r.flat_toDocument (hbounded r hr)
  obtain ⟨fs₁, c₁, hadd, hpath₁, hstores₁⟩ := h.addAll c.documents hnumbered.nodup_ids hflat
  obtain ⟨fs₂, c₂, hflush, hpath₂, -, hread⟩ := hstores₁.flush
  refine ⟨fs₂, c₂, ?_, by rw [← hpath₁, ← hpath₂, hread]; rfl⟩
  have hflushed : LineCollection.sink.flush (fs₁, c₁) = ((fs₂, c₂), .ok ()) := by
    simp only [LineCollection.sink, hflush]
  have hsize : c.documents.length = c.size := List.length_map _
  simp only [loadCatalog, hadd, hflushed, LoadReport.ofAdditions_ok, hsize]

/-- **From a directory to a collection.** When the build over a directory succeeds, with numbers
of 64 bits, its catalog is written, in either layout, and a new collection file is started, then
the catalog is read back as it was built; loading it adds the document of every record and refuses
none; the collection file then has the documents of the records, in their order; the record with a
number is the one that was built at that place, and is located there with its file, its lines and
its text; and there is no record with a greater number.

**Proof sketch.** The records of a build are numbered by place (`outcomeOf_accountsFor`), so their
ids differ and all of them are added (`loadCatalog_of_numbered`); the catalog that is loaded is the
one that was written (`Catalog.readFrom_of_writeTo`). -/
theorem load_of_build {make : Python.TreeMaker} {fs fs₁ fs₂ : FileSystem} {env : Environment}
    {config : Config} {count : String → Nat} {root catalogPath collectionPath : String}
    {out : BuildOutcome} {pretty : Bool} {collection : LineCollection}
    (hbuild : (build make fs env config count root).result = .ok out)
    (hbounded : Catalog.Bounded ⟨out.records⟩)
    (hwrite : Catalog.writeTo fs ⟨out.records⟩ catalogPath pretty = (fs₁, .ok ()))
    (hcreate : LineCollection.create fs₁ collectionPath = (fs₂, .ok collection))
    (hdata : fs₂.TakesData collectionPath) :
    ∃ catalog loading, Catalog.readFrom fs₁ catalogPath = .ok catalog ∧
      loadCatalog LineCollection.sink (fs₂, collection) catalog = loading ∧
      loading.result = .ok ⟨out.records.length, []⟩ ∧
      LineCollection.readDocuments loading.state.1 collectionPath =
        .ok (out.records.map Record.toDocument) ∧
      (∀ i (hi : i < out.records.length), catalog.get? i = some out.records[i] ∧
        Cli.locateRecord fs₁ i catalogPath =
          let u := out.records[i].unit
          ⟨fs₁, s!"{u.filePath}:{u.startLine}-{u.endLine}\n\n{u.sourceText}\n", .success⟩) ∧
      ∀ i ≥ out.records.length, catalog.get? i = none := by
  obtain ⟨entries, -, -, rfl⟩ := build_result_eq_ok_iff.mp hbuild
  set records := (outcomeOf count (extractFile make fs) (visited entries)).records
  have hnumbered : Catalog.Numbered ⟨records⟩ :=
    (outcomeOf_accountsFor count (extractFile make fs) (visited entries)).identity
  have hread := Catalog.readFrom_of_writeTo hbounded hwrite
  obtain ⟨hpath, hstores⟩ := LineCollection.stores_of_create hcreate hdata
  obtain ⟨fs₃, collection', hload, hdocuments⟩ :=
    loadCatalog_of_numbered hnumbered hbounded hstores
  refine ⟨⟨records⟩, _, hread, hload, rfl, by rw [← hpath]; exact hdocuments, ?_, ?_⟩
  · intro i hi
    have hget : Catalog.get? ⟨records⟩ i = some records[i] := by
      rw [hnumbered.get?_eq]
      exact List.getElem?_eq_getElem hi
    refine ⟨hget, ?_⟩
    simp only [Cli.locateRecord, hread, hget]
    rfl
  · intro i hi
    rw [hnumbered.get?_eq]
    exact List.getElem?_eq_none hi

/-! ### A file with a function and a variable -/

/-- The text of a source file with a function and a variable. -/
def primerText : String := "def f(x):\n    return x\ny = 1\n"

/-- The tree of the function. -/
def primerFunction : Syntax.Node :=
  .mk { kind := "function_definition"
        startByte := 0, endByte := 22, start := ⟨0, 0⟩, stop := ⟨1, 12⟩ }
    [.mk { kind := "def", named := false
           startByte := 0, endByte := 3, start := ⟨0, 0⟩, stop := ⟨0, 3⟩ } [],
      .mk { kind := "identifier", field := some "name"
            startByte := 4, endByte := 5, start := ⟨0, 4⟩, stop := ⟨0, 5⟩ } [],
      .mk { kind := "parameters", field := some "parameters"
            startByte := 5, endByte := 8, start := ⟨0, 5⟩, stop := ⟨0, 8⟩ }
        [.mk { kind := "(", named := false
               startByte := 5, endByte := 6, start := ⟨0, 5⟩, stop := ⟨0, 6⟩ } [],
          .mk { kind := "identifier"
                startByte := 6, endByte := 7, start := ⟨0, 6⟩, stop := ⟨0, 7⟩ } [],
          .mk { kind := ")", named := false
                startByte := 7, endByte := 8, start := ⟨0, 7⟩, stop := ⟨0, 8⟩ } []],
      .mk { kind := ":", named := false
            startByte := 8, endByte := 9, start := ⟨0, 8⟩, stop := ⟨0, 9⟩ } [],
      .mk { kind := "block", field := some "body"
            startByte := 14, endByte := 22, start := ⟨1, 4⟩, stop := ⟨1, 12⟩ }
        [.mk { kind := "return_statement"
               startByte := 14, endByte := 22, start := ⟨1, 4⟩, stop := ⟨1, 12⟩ }
          [.mk { kind := "return", named := false
                 startByte := 14, endByte := 20, start := ⟨1, 4⟩, stop := ⟨1, 10⟩ } [],
            .mk { kind := "identifier"
                  startByte := 21, endByte := 22, start := ⟨1, 11⟩, stop := ⟨1, 12⟩ } []]]]

/-- The tree of the statement behind the function. -/
def primerStatement : Syntax.Node :=
  .mk { kind := "expression_statement"
        startByte := 23, endByte := 28, start := ⟨2, 0⟩, stop := ⟨2, 5⟩ }
    [.mk { kind := "assignment"
           startByte := 23, endByte := 28, start := ⟨2, 0⟩, stop := ⟨2, 5⟩ }
      [.mk { kind := "identifier", field := some "left"
             startByte := 23, endByte := 24, start := ⟨2, 0⟩, stop := ⟨2, 1⟩ } [],
        .mk { kind := "=", named := false
              startByte := 25, endByte := 26, start := ⟨2, 2⟩, stop := ⟨2, 3⟩ } [],
        .mk { kind := "integer", field := some "right"
              startByte := 27, endByte := 28, start := ⟨2, 4⟩, stop := ⟨2, 5⟩ } []]]

/-- The tree of the file. -/
def primerTree : Syntax.Node :=
  .mk { kind := "module", startByte := 0, endByte := 29, start := ⟨0, 0⟩, stop := ⟨3, 0⟩ }
    [primerFunction, primerStatement]

/-- The tree of the file is at hand, the trees of all others are made. -/
def primerMaker : Python.TreeMaker := fun source =>
  if source = primerText then some primerTree else Python.treeMaker source

/-- The unit of the function. -/
def primerFunctionUnit : CodeUnit :=
  { kind := .function, name := "f", parameters := some ["x"]
    sourceText := "def f(x):\n    return x", filePath := "src/a.py"
    startLine := 1, endLine := 2, startCol := 0, endCol := some 12 }

/-- The unit of the variable. -/
def primerVariableUnit : CodeUnit :=
  { kind := .variable, name := "y", sourceText := "y = 1", filePath := "src/a.py"
    startLine := 3, endLine := 3, startCol := 0, endCol := some 1 }

/-- The units of the file. -/
def primerUnits : List CodeUnit := [primerFunctionUnit, primerVariableUnit]

/-- A directory with the file. -/
def primerSources : List (String × Entry) := [("a.py", .file primerText.toUTF8)]

section Primer

variable {others : List (String × Entry)}

/-- The units of the file are extracted, whatever stands beside its directory. -/
lemma extractFile_primer :
    extractFile primerMaker (withSources primerSources others) "src/a.py" = .ok primerUnits := by
  have hread : (withSources primerSources others).read "src/a.py" = .ok primerText.toUTF8 := by
    rw [show "src/a.py" = Path.join "src" "a.py" by decide]
    exact read_withSources (by decide) rfl (by decide) (by decide)
  have hdecode : Text.decode primerText.toUTF8 = .ok primerText := by
    rw [Text.decode, Text.fromUTF8?_toUTF8]
  have hmark : Text.dropMark primerText = primerText := by decide
  have hparse : Python.parse primerMaker "src/a.py" primerText = .ok primerTree := by
    have hnone : Python.firstLegacyStatement? primerTree = none :=
      Option.isNone_iff_eq_none.mp (by decide +kernel)
    have herror : primerTree.info.hasError = false := rfl
    simp only [Python.parse, primerMaker, if_true, Python.checkParsed, Python.checkTree, herror,
      Bool.false_eq_true, if_false, hnone]
  have hunits : extractUnits "src/a.py" primerText primerTree = primerUnits := by
    decide +kernel
  simp only [extractFile, hread, hdecode, hmark, hparse, hunits]

/-- The build over the directory succeeds with a record of each unit. -/
lemma build_primer (others : List (String × Entry)) (config : Config)
    (hdiscovery : config.discovery = .default) (env : Environment) (count : String → Nat) :
    ∃ out, (build primerMaker (withSources primerSources others) env config count "src").result =
      .ok out ∧ out.records = enrich count 0 primerUnits := by
  have hdiscover : discover (withSources primerSources others) env config.discovery "src" =
      .ok [.ok "src/a.py"] := by
    rw [hdiscovery]
    exact discover_withSources _ _ env (by simp [primerSources]) (by simp [primerSources])
      (by decide)
  refine ⟨_, build_result_eq_ok_iff.mpr ⟨_, hdiscover, fun path hpath => ?_, rfl⟩, ?_⟩
  · obtain rfl := List.mem_singleton.mp hpath
    rw [goesOn, extractFile_primer]
  · have hfile : fileUnits (extractFile primerMaker (withSources primerSources others)) "src/a.py" =
        primerUnits := by
      rw [fileUnits, extractFile_primer]
    exact congrArg (enrich count 0) ((List.flatMap_singleton ..).trans hfile)

end Primer

/-- The usual name of a catalog file is plain. -/
lemma plainName_catalog : PlainName "catalog.json" where
  fault := by decide
  relative := by decide
  parts := by decide
  parent := by decide
  isName := ⟨by decide, by decide, rfl, by decide⟩

/-- The directory with the file, beside a catalog file and a collection file. -/
def besidePrimer (catalog collection : ByteArray) : FileSystem :=
  withSources primerSources
    [("catalog.json", .file catalog), ("collection.jsonl", .file collection)]

/-- The directory beside files that are neither a catalog nor a collection. -/
def staleFiles : FileSystem := besidePrimer "[".toUTF8 "\x7b".toUTF8

/-- A catalog replaces the old catalog file, and the collection file stays. -/
lemma writeTo_besidePrimer (old collection : ByteArray) (c : Catalog) (pretty : Bool) :
    c.writeTo (besidePrimer old collection) "catalog.json" pretty =
      (besidePrimer (c.toJson pretty).toUTF8 collection, .ok ()) := by
  have hfile : (besidePrimer old collection).FileAt "catalog.json" ["catalog.json"] old :=
    plainName_catalog.fileAt rfl
  rw [Catalog.writeTo, FileSystem.createParents_of_hasParents (plainName_catalog.hasParents _)]
  simp only [hfile.write]
  rfl

/-- The records of the two units, with numbers of tokens. -/
def primerRecords (functionTokens variableTokens : Nat) : List Record :=
  [⟨0, primerFunctionUnit, functionTokens⟩, ⟨1, primerVariableUnit, variableTokens⟩]

/-- A build beside old files of both kinds that are neither a catalog nor a collection: the records
of the function and of the variable replace the one, and their documents the other. Each record is
located, and there is no third one. The tokens that are counted are characters. -/
theorem load_of_build_primer :
    ∃ out fs₁ fs₂ collection catalog loading,
      (build primerMaker staleFiles ⟨[]⟩ (Config.default ⟨[]⟩) String.length "src").result =
        .ok out ∧
      out.records = primerRecords 22 5 ∧
      Catalog.writeTo staleFiles ⟨out.records⟩ "catalog.json" true = (fs₁, .ok ()) ∧
      LineCollection.create fs₁ "collection.jsonl" = (fs₂, .ok collection) ∧
      Catalog.readFrom fs₁ "catalog.json" = .ok catalog ∧
      loadCatalog LineCollection.sink (fs₂, collection) catalog = loading ∧
      loading.result = .ok ⟨2, []⟩ ∧
      LineCollection.readDocuments loading.state.1 "collection.jsonl" =
        .ok ((primerRecords 22 5).map Record.toDocument) ∧
      catalog.get? 0 = some ⟨0, primerFunctionUnit, 22⟩ ∧
      catalog.get? 1 = some ⟨1, primerVariableUnit, 5⟩ ∧
      Cli.locateRecord fs₁ 0 "catalog.json" =
        ⟨fs₁, "src/a.py:1-2\n\ndef f(x):\n    return x\n", .success⟩ ∧
      Cli.locateRecord fs₁ 1 "catalog.json" = ⟨fs₁, "src/a.py:3-3\n\ny = 1\n", .success⟩ ∧
      catalog.get? 2 = none := by
  obtain ⟨⟨report, records⟩, hbuild, hunits⟩ := build_primer
    [("catalog.json", .file "[".toUTF8), ("collection.jsonl", .file "\x7b".toUTF8)]
    (Config.default ⟨[]⟩) rfl ⟨[]⟩ String.length
  obtain rfl : records = primerRecords 22 5 := hunits.trans (by decide)
  have hbounded : Catalog.Bounded ⟨primerRecords 22 5⟩ := by decide
  have hwrite := writeTo_besidePrimer "[".toUTF8 "\x7b".toUTF8 ⟨primerRecords 22 5⟩ true
  have hfile : (besidePrimer (Catalog.toJson ⟨primerRecords 22 5⟩ true).toUTF8 "\x7b".toUTF8).FileAt
      "collection.jsonl" ["collection.jsonl"] "\x7b".toUTF8 := plainName_collection.fileAt rfl
  obtain ⟨fs₂, collection, hcreate, hdata⟩ :=
    LineCollection.create_of_fileAt hfile (plainName_collection.hasParents _)
  obtain ⟨catalog, loading, hread, hload, hresult, hdocuments, hget, hnone⟩ :=
    load_of_build hbuild hbounded hwrite hcreate hdata
  dsimp only at hget
  obtain ⟨hfirst, hlocateFirst⟩ := hget 0 Nat.two_pos
  obtain ⟨hsecond, hlocateSecond⟩ := hget 1 Nat.one_lt_two
  refine ⟨_, _, fs₂, collection, catalog, loading, hbuild, rfl, hwrite, hcreate, hread, hload,
    hresult, hdocuments, hfirst, hsecond, ?_, ?_, hnone 2 (Nat.le_refl 2)⟩
  · rw [hlocateFirst]
    exact congrArg (Cli.Completion.mk _ · .success) (by decide +kernel)
  · rw [hlocateSecond]
    exact congrArg (Cli.Completion.mk _ · .success) (by decide +kernel)

end CodeCatalog
