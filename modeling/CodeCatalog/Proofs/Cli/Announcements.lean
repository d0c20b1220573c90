import CodeCatalog.Proofs.Catalog.Bounds
import CodeCatalog.Proofs.Cli.Artifacts
import CodeCatalog.Proofs.Collection.Flattening
import CodeCatalog.Proofs.Collection.Locating
import CodeCatalog.Proofs.Text.Lines

/-!
# What is shown while a catalog is loaded

Two lines are shown for every record of the catalog, one before its document is added and one that
tells what became of it. The second is about this very document. The first has the number of the
record, but its data is looked up by this number, and of several records with one number the last
one is found.

## Main definitions

* `CodeCatalog.Cli.announcement`, `outcomeLine` — the two lines.
* `CodeCatalog.Catalog.last?` — the last record with a number.
* `CodeCatalog.Sink.resultBehind` — what becomes of a document behind others.

## Main results

* `CodeCatalog.Text.physicalLines_asLines` — texts that are written one to a line are its lines.
* `CodeCatalog.addAll_getElem?` — what becomes of each document.
* `CodeCatalog.Cli.lines_of_run_load` — the lines of a load, and whose data they show.
-/

namespace CodeCatalog

open Json

/-! ## Lines -/

namespace Text

/-- The characters of lines: each line with a line feed behind it. -/
lemma toList_asLines (lines : List String) :
    (asLines lines).toList = lines.flatMap fun line => line.toList ++ ['\n'] := by
  simp [asLines, String.toList_join, List.flatMap_map]

/-- **Texts that are written one to a line are its lines.** -/
lemma physicalLines_asLines {lines : List String} (h : ∀ line ∈ lines, '\n' ∉ line.toList) :
    physicalLines (asLines lines) = lines.map (· ++ "\n") := by
  rw [physicalLines, toList_asLines]
  induction lines with
  | nil => rfl
  | cons line lines ih =>
    obtain ⟨hline, hlines⟩ := List.forall_mem_cons.mp h
    have hfirst : String.ofList (line.toList ++ ['\n']) = line ++ "\n" := by
      rw [← String.toList_inj, String.toList_ofList, String.toList_append]
      rfl
    rw [List.flatMap_cons, List.append_assoc, List.singleton_append, linesFrom_line [] hline,
      List.map_cons, ih hlines, List.reverse_nil, List.nil_append, hfirst, List.map_cons]

/-- Lines joined to lines are the lines of all. -/
lemma join_map_asLines {α : Type} (xs : List α) (f : α → List String) :
    String.join (xs.map fun x => asLines (f x)) = asLines (xs.flatMap f) := by
  rw [← String.toList_inj, String.toList_join, toList_asLines, List.flatMap_map, List.flatMap_assoc]
  simp only [toList_asLines]

/-- A text without control characters has no line feed. -/
lemma NoControls.not_mem {xs : List Char} (h : NoControls xs) : '\n' ∉ xs := by
  intro hmem
  exact absurd (h _ hmem) (by decide)

end Text

/-- Of the texts that are made two of each item, those of the item at a place. -/
lemma getElem?_flatMap_pair {α β : Type} (f g : α → β) (xs : List α) (k : Nat) :
    (xs.flatMap fun x => [f x, g x])[2 * k]? = xs[k]?.map f ∧
      (xs.flatMap fun x => [f x, g x])[2 * k + 1]? = xs[k]?.map g := by
  induction xs generalizing k with
  | nil => exact ⟨rfl, rfl⟩
  | cons x xs ih =>
    cases k with
    | zero => exact ⟨rfl, rfl⟩
    | succ k => exact ih k

/-! ## What becomes of each document -/

section Adding

variable {σ : Type} (sink : Sink σ) (s : σ) (ds : List Document)

/-- What becomes of a document that is added behind others. -/
def Sink.resultBehind (d : Document) : Except SinkError Unit := (sink.add (addAll sink s ds).1 d).2

/-- **What becomes of each document**: it is added behind those in front of it. -/
lemma addAll_getElem? (k : Nat) :
    (addAll sink s ds).2[k]? = ds[k]?.map fun d => (d, sink.resultBehind s (ds.take k) d) := by
  induction ds generalizing s k with
  | nil => rfl
  | cons d ds ih =>
    cases k with
    | zero => rfl
    | succ k => exact ih (sink.add s d).1 k

/-- There is one result for each document that is added. -/
lemma length_addAll : (addAll sink s ds).2.length = ds.length := by
  induction ds generalizing s with
  | nil => rfl
  | cons d ds ih => exact congrArg (· + 1) (ih (sink.add s d).1)

/-- Whether the documents can be made to stay at the end does not change what became of them. -/
lemma additions_loadCatalog (c : Catalog) :
    (loadCatalog sink s c).additions = (addAll sink s c.documents).2 := by
  unfold loadCatalog
  dsimp only
  split <;> rfl

end Adding

/-- A document that a collection file does not take has an id that is taken, or its line cannot be
written. -/
lemma LineCollection.error_of_add {s : FileSystem × LineCollection} {d : Document} {e : SinkError}
    (h : (LineCollection.sink.add s d).2 = .error e) :
    e = idExists d.id ∨ ∃ fault : OsError, e = .recordAddFailure d.id fault.message := by
  dsimp only [LineCollection.sink, LineCollection.add] at h
  split at h
  · exact .inl (Except.error.inj h).symm
  · split at h
    · exact .inr ⟨_, (Except.error.inj h).symm⟩
    · cases h

/-! ## The last record with a number -/

/-- The value that is paired with a key is that of the first item with the key. -/
lemma lookup_map {α β κ : Type} [BEq κ] (f : α → κ) (g : α → β) (key : κ) (xs : List α) :
    (xs.map fun x => (f x, g x)).lookup key = (xs.find? fun x => key == f x).map g := by
  induction xs with
  | nil => rfl
  | cons x xs ih =>
    rw [List.map_cons, List.lookup_cons, List.find?_cons, ih]
    cases key == f x <;> rfl

namespace Catalog

variable {c : Catalog} {i : Nat}

/-- The last record with a number. -/
def last? (c : Catalog) (i : Nat) : Option Record := c.records.reverse.find? (·.identity == i)

/-- The last record with a number is one of the records. -/
lemma mem_of_last? {last : Record} (h : c.last? i = some last) : last ∈ c.records :=
  List.mem_reverse.mp (List.mem_of_find?_eq_some h)

/-- There is a last record with the number of any record. -/
lemma exists_last? {r : Record} (h : r ∈ c.records) : ∃ last, c.last? r.identity = some last := by
  rw [← Option.isSome_iff_exists, last?, List.find?_isSome]
  exact ⟨r, List.mem_reverse.mpr h, by simp⟩

end Catalog

namespace Cli

/-! ## The two lines -/

/-- The lines that a session shows. -/
def Completion.lines (c : Completion) : List String := Text.physicalLines c.output

/-- The line that is shown before a document is added. -/
def announcement (id shown : String) : String := s!"Adding data point {id}: {shown}"

/-- The line that tells what became of a document. -/
def outcomeLine (id : String) : Except SinkError Unit → String
  | .ok () => s!"Data point {id} added successfully."
  | .error e => s!"Error adding data point {id}: {e.message}"

/-- Announcements for one id are told apart by the data that they show. -/
lemma announcement_inj {id shown shown' : String} :
    announcement id shown = announcement id shown' ↔ shown = shown' := by
  dsimp only [announcement, toString]
  exact String.append_right_inj _

/-- The text of the data about a document. -/
def dataText (metadata : List (String × Value)) : String := (Value.object metadata).text false

/-- The data that is shown for an id. -/
def shownFor (metadata : List (String × String)) (id : String) : String :=
  (metadata.reverse.lookup id).getD "\x7b\x7d"

/-- The two lines that are shown for a document. -/
def additionLines (metadata : List (String × String)) (a : Addition) : List String :=
  [announcement a.1.id (shownFor metadata a.1.id), outcomeLine a.1.id a.2]

/-- What is shown for a document are its two lines. -/
lemma additionText_eq (metadata : List (String × String)) (a : Addition) :
    additionText metadata a = Text.asLines (additionLines metadata a) := by
  have hpair (first second : String) :
      Text.asLines [first, second] = first ++ "\n" ++ (second ++ "\n") := by
    simp [Text.asLines, String.append_assoc]
  have hend : " added successfully.\n" = " added successfully." ++ "\n" := by decide
  obtain ⟨d, result⟩ := a
  rw [additionLines, hpair]
  cases result with
  | ok u =>
    dsimp only [additionText, announcement, outcomeLine, shownFor, toString]
    simp only [hend, String.append_assoc]
  | error e => dsimp only [additionText, announcement, outcomeLine, shownFor, toString]

/-- **Of several records with one number the data of the last one is shown.** -/
lemma shownFor_of_last? {c : Catalog} {i : Nat} {last : Record} (h : c.last? i = some last) :
    shownFor (metadataLines c) (toString i) = dataText last.toDocument.metadata := by
  have hid : (fun r : Record => toString i == r.toDocument.id) = fun r => r.identity == i := by
    funext r
    rw [Bool.eq_iff_iff, beq_iff_eq, beq_iff_eq, eq_comm]
    exact toString_nat_injective.eq_iff
  have hlookup : (metadataLines c).reverse.lookup (toString i) =
      some (dataText last.toDocument.metadata) := by
    rw [metadataLines, Catalog.documents, List.map_map, ← List.map_reverse]
    refine (lookup_map (fun r : Record => r.toDocument.id)
      (fun r : Record => dataText r.toDocument.metadata) _ _).trans ?_
    rw [hid, ← Catalog.last?, h, Option.map_some]
  rw [shownFor, hlookup, Option.getD_some]

/-! ## No line feeds inside of lines -/

section NoControls

open Text (NoControls)

/-- The id of a record has no control characters: it has digits only. -/
lemma noControls_id (r : Record) : NoControls r.toDocument.id.toList := by
  have hid : r.toDocument.id.toList = natText r.identity := Nat.toList_repr
  rw [hid]
  exact noControls_natText _

/-- Flat data is shown without control characters. -/
lemma noControls_dataText {d : Document} (h : d.Flat) :
    NoControls (dataText d.metadata).toList := by
  have hfits : (Value.object d.metadata).Fits 1 := .object h.scalar
  rw [dataText, Value.text, String.toList_ofList]
  exact hfits.noControls 0

/-- An announcement has no control characters if its parts have none. -/
lemma noControls_announcement {id shown : String} (hid : NoControls id.toList)
    (hshown : NoControls shown.toList) : NoControls (announcement id shown).toList := by
  have hbegin : NoControls "Adding data point ".toList := by decide
  have hcolon : NoControls ": ".toList := by decide
  dsimp only [announcement, toString]
  simp only [String.toList_append]
  exact ((hbegin.append hid).append hcolon).append hshown

/-- The line about an outcome has no control characters if the id has none. -/
lemma noControls_outcomeLine {id : String} (hid : NoControls id.toList)
    {result : Except SinkError Unit}
    (hresult : ∀ e, result = .error e →
      e = idExists id ∨ ∃ fault : OsError, e = .recordAddFailure id fault.message) :
    NoControls (outcomeLine id result).toList := by
  cases result with
  | ok u =>
    have hbegin : NoControls "Data point ".toList := by decide
    have hend : NoControls " added successfully.".toList := by decide
    dsimp only [outcomeLine, toString]
    simp only [String.toList_append]
    exact (hbegin.append hid).append hend
  | error e =>
    have hmessage : ∀ reason : String, NoControls reason.toList →
        NoControls (outcomeLine id (.error (.recordAddFailure id reason))).toList := by
      intro reason hreason
      have hbegin : NoControls "Error adding data point ".toList := by decide
      have hcolon : NoControls ": ".toList := by decide
      have hfailed : NoControls "Failed to add record ".toList := by decide
      dsimp only [outcomeLine, SinkError.message, toString]
      simp only [String.toList_append]
      exact ((hbegin.append hid).append hcolon).append
        (((hfailed.append hid).append hcolon).append hreason)
    rcases hresult e rfl with rfl | ⟨fault, rfl⟩
    · exact hmessage _ (by decide)
    · exact hmessage _ (by cases fault <;> decide)

end NoControls

/-- The text of the data gives the data back. -/
lemma dataText_inj {d d' : Document} (h : d.Flat) (h' : d'.Flat) :
    dataText d.metadata = dataText d'.metadata ↔ d.metadata = d'.metadata := by
  refine ⟨fun htext => ?_, congrArg dataText⟩
  have hread {d : Document} (h : d.Flat) :
      Json.readAll (readMetadata 1) (dataText d.metadata) = .ok d.metadata :=
    (reads_readMetadata 1 .compact 0 h.ordered h.scalar).readAll
  have hsame := hread h
  rw [htext, hread h'] at hsame
  exact (Except.ok.inj hsame).symm

/-! ## A load -/

variable {fs fs' : FileSystem} {catalogPath collectionPath : String} {append : Bool} {c : Catalog}
  {collection : LineCollection}

/-- The lines of a document that is added behind others. -/
lemma additionLines_of_last? {r last : Record} (hlast : c.last? r.identity = some last)
    (result : Except SinkError Unit) :
    additionLines (metadataLines c) (r.toDocument, result) =
      [announcement r.toDocument.id (dataText last.toDocument.metadata),
        outcomeLine r.toDocument.id result] := by
  rw [additionLines, ← shownFor_of_last? hlast]
  rfl

/-- The lines for the documents of a catalog of 64-bit numbers have no line feeds inside. -/
lemma not_mem_of_mem_additionLines (hbounded : c.Bounded) {s : FileSystem × LineCollection}
    {a : Addition} (ha : a ∈ (addAll LineCollection.sink s c.documents).2) :
    ∀ line ∈ additionLines (metadataLines c) a, '\n' ∉ line.toList := by
  obtain ⟨k, hk⟩ := List.getElem?_of_mem ha
  rw [addAll_getElem?, Option.map_eq_some_iff] at hk
  obtain ⟨d, hd, rfl⟩ := hk
  obtain ⟨r, hr, rfl⟩ := List.mem_map.mp (List.mem_of_getElem? hd)
  obtain ⟨last, hlast⟩ := Catalog.exists_last? hr
  have hmem := Catalog.mem_of_last? hlast
  have hdata := noControls_dataText (last.flat_toDocument (hbounded last hmem))
  rw [additionLines_of_last? hlast]
  simp only [List.forall_mem_cons]
  refine ⟨?_, ?_, List.forall_mem_nil _⟩
  · exact (noControls_announcement (noControls_id r) hdata).not_mem
  · exact (noControls_outcomeLine (noControls_id r) fun e he =>
      LineCollection.error_of_add he).not_mem

/-- **The lines of a load**: those for the documents of the catalog, one after the other. -/
lemma lines_loadInto (hread : Catalog.readFrom fs catalogPath = .ok c)
    (hopen : (if append then LineCollection.openExisting fs collectionPath
      else LineCollection.create fs collectionPath) = (fs', .ok collection)) :
    (loadInto fs catalogPath collectionPath append).lines =
      ((addAll LineCollection.sink (fs', collection) c.documents).2.flatMap
        (additionLines (metadataLines c))).map (· ++ "\n") := by
  have houtput : (loadInto fs catalogPath collectionPath append).output =
      Text.asLines ((addAll LineCollection.sink (fs', collection) c.documents).2.flatMap
        (additionLines (metadataLines c))) := by
    rw [← Text.join_map_asLines, ← additions_loadCatalog]
    simp only [← additionText_eq, loadInto, hread, hopen]
    split <;> rfl
  rw [Completion.lines, houtput, Text.physicalLines_asLines]
  intro line hline
  obtain ⟨a, ha, hline⟩ := List.mem_flatMap.mp hline
  exact not_mem_of_mem_additionLines (Catalog.bounded_of_readFrom hread) ha line hline

section Lines

variable (hread : Catalog.readFrom fs catalogPath = .ok c)
  (hopen : (if append then LineCollection.openExisting fs collectionPath
    else LineCollection.create fs collectionPath) = (fs', .ok collection))

include hread hopen

/-- A load shows two lines for every record. -/
lemma length_lines_loadInto :
    (loadInto fs catalogPath collectionPath append).lines.length = 2 * c.records.length := by
  rw [lines_loadInto hread hopen, List.length_map, List.length_flatMap]
  have htwo (as : List Addition) :
      (as.map fun a => (additionLines (metadataLines c) a).length).sum = 2 * as.length := by
    induction as with
    | nil => rfl
    | cons a as ih =>
      rw [List.map_cons, List.sum_cons, ih, List.length_cons]
      simp only [additionLines, List.length_cons, List.length_nil]
      omega
  rw [htwo, length_addAll, Catalog.documents, List.length_map]

/-- The two lines for a record. -/
lemma getElem?_lines_loadInto {k : Nat} {r last : Record} (hr : c.records[k]? = some r)
    (hlast : c.last? r.identity = some last) :
    (loadInto fs catalogPath collectionPath append).lines[2 * k]? =
      some (announcement r.toDocument.id (dataText last.toDocument.metadata) ++ "\n") ∧
    (loadInto fs catalogPath collectionPath append).lines[2 * k + 1]? =
      some (outcomeLine r.toDocument.id (LineCollection.sink.resultBehind (fs', collection)
        (c.documents.take k) r.toDocument) ++ "\n") := by
  obtain ⟨hfirst, hsecond⟩ := getElem?_flatMap_pair
    (fun a : Addition => announcement a.1.id (shownFor (metadataLines c) a.1.id))
    (fun a : Addition => outcomeLine a.1.id a.2)
    (addAll LineCollection.sink (fs', collection) c.documents).2 k
  have hd : c.documents[k]? = some r.toDocument := by
    rw [Catalog.documents, List.getElem?_map, hr, Option.map_some]
  rw [addAll_getElem?, hd, Option.map_some, Option.map_some] at hfirst hsecond
  rw [lines_loadInto hread hopen, List.getElem?_map, List.getElem?_map, ← shownFor_of_last? hlast]
  exact ⟨congrArg (Option.map (· ++ "\n")) hfirst, congrArg (Option.map (· ++ "\n")) hsecond⟩

end Lines

/-- **Whose data a load shows.** Let a load read its catalog and open its collection. It shows two
lines for every record, in the order of the records. The second tells what became of the document of
this record, which is added behind those of the records in front of it. The first has the number of
this record, and the data of the last record with this number. So it shows the data of the document
that is added exactly if the last record with its number has the same data.

**Proof sketch.** No line has a line feed inside, so the lines of the output are those of the
additions (`lines_loadInto`), two of each. The data is looked up in a list of which the last entry
with an id counts (`shownFor_of_last?`), and its text gives it back (`dataText_inj`), as the
catalog comes from a file and its numbers have 64 bits (`Catalog.bounded_of_readFrom`). -/
theorem lines_of_run_load {env : Environment} {words : List String}
    {configPath catalogArg collectionArg : Option String} {config : Config}
    (hwords : Request.ofWords words =
      .run ⟨configPath, .load catalogArg collectionArg append⟩)
    (hload : Config.load fs env configPath = .ok config)
    (hread : Catalog.readFrom fs (catalogArg.getD config.catalog.outputPath) = .ok c)
    (hopen : (if append
        then LineCollection.openExisting fs (collectionArg.getD config.collectionPath)
        else LineCollection.create fs (collectionArg.getD config.collectionPath)) =
      (fs', .ok collection)) (input : String) :
    (run edition fs env words input).lines.length = 2 * c.records.length ∧
    ∀ k r, c.records[k]? = some r → ∃ last, c.last? r.identity = some last ∧
      (run edition fs env words input).lines[2 * k]? =
        some (announcement r.toDocument.id (dataText last.toDocument.metadata) ++ "\n") ∧
      (run edition fs env words input).lines[2 * k + 1]? =
        some (outcomeLine r.toDocument.id (LineCollection.sink.resultBehind (fs', collection)
          (c.documents.take k) r.toDocument) ++ "\n") ∧
      ((run edition fs env words input).lines[2 * k]? =
          some (announcement r.toDocument.id (dataText r.toDocument.metadata) ++ "\n") ↔
        last.toDocument.metadata = r.toDocument.metadata) := by
  rw [run_eq_loadInto hwords hload]
  refine ⟨length_lines_loadInto hread hopen, fun k r hr => ?_⟩
  have hbounded := Catalog.bounded_of_readFrom hread
  have hmem := List.mem_of_getElem? hr
  obtain ⟨last, hlast⟩ := Catalog.exists_last? hmem
  obtain ⟨hfirst, hsecond⟩ := getElem?_lines_loadInto hread hopen hr hlast
  refine ⟨last, hlast, hfirst, hsecond, ?_⟩
  rw [hfirst, Option.some.injEq, String.append_left_inj, announcement_inj]
  exact dataText_inj (last.flat_toDocument (hbounded last (Catalog.mem_of_last? hlast)))
    (r.flat_toDocument (hbounded r hmem))

/-! ### A catalog with two records of one number -/

/-- The data of the two records differ, in the name. -/
lemma metadata_firstLineVariable_ne :
    (Record.toDocument ⟨1, firstLineVariable "b", 3⟩).metadata ≠
      (Record.toDocument ⟨1, firstLineVariable "a", 3⟩).metadata := by
  intro h
  have hname : some (some (Value.string "b")) = some (some (Value.string "a")) :=
    congrArg (List.lookup "name") (Record.slots_of_metadata_eq h)
  simp at hname

/-- Two lines are shown for each of the two records, but the first announcement shows the data of
the second record. -/
theorem lines_of_run_load_twinCatalog :
    (run primerEdition ⟨.dir twinFiles, []⟩ ⟨[]⟩ loadWords "").lines.length = 4 ∧
    (run primerEdition ⟨.dir twinFiles, []⟩ ⟨[]⟩ loadWords "").lines[0]? =
      some (announcement "1"
        (dataText (Record.toDocument ⟨1, firstLineVariable "b", 3⟩).metadata) ++ "\n") ∧
    (run primerEdition ⟨.dir twinFiles, []⟩ ⟨[]⟩ loadWords "").lines[0]? ≠
      some (announcement "1"
        (dataText (Record.toDocument ⟨1, firstLineVariable "a", 3⟩).metadata) ++ "\n") := by
  have hwords : Request.ofWords loadWords =
      .run ⟨none, .load (some "catalog.json") (some "collection.jsonl") false⟩ := by decide
  obtain ⟨fs', collection, hcreate, -⟩ := plainName_collection.create twinFiles (by decide)
  obtain ⟨hlength, hlines⟩ :=
    lines_of_run_load hwords (load_of_lookup rfl) readFrom_twinFiles hcreate ""
  obtain ⟨last, hlast, hfirst, -, hiff⟩ := hlines 0 ⟨1, firstLineVariable "a", 3⟩ rfl
  obtain rfl : ⟨1, firstLineVariable "b", 3⟩ = last := Option.some.inj hlast
  exact ⟨hlength, hfirst, fun hown => metadata_firstLineVariable_ne (hiff.mp hown)⟩

end Cli

end CodeCatalog
