import CodeCatalog.Proofs.Collection.Loading

/-!
# The record with a number, and the document stored for it

A collection keeps the first of several documents with the same id, so the document that is stored
for a number is that of the first record with it. The look-up in a catalog tries the place of the
number first. The two differ where a catalog repeats a number and the later record with it stands
at the place of that number.

## Main definitions

* `CodeCatalog.Catalog.Shadows` — catalogs whose look-up passes the first record with a number by.
* `CodeCatalog.Sink.KeepsFirst` — sinks that take a document exactly if its id is new.

## Main results

* `CodeCatalog.Catalog.get?_eq_search_iff` — when the look-up finds the first record.
* `CodeCatalog.Sink.KeepsFirst.loadCatalog` — the documents that are stored are those of the first
  records.
* `CodeCatalog.Catalog.located_eq_stored_iff` — both, for collections in memory and in files.
-/

namespace CodeCatalog

/-! ## The look-up in a catalog -/

namespace Catalog

/-- Whether the record at the place of a number has that number, while a record in front of it has
it too and is a different one. -/
def Shadows (c : Catalog) (i : Nat) : Prop :=
  ∃ first r, (c.records.take i).find? (·.identity == i) = some first ∧ c.records[i]? = some r ∧
    r.identity = i ∧ first ≠ r

/-- A record whose number is its place is found by this number. -/
lemma get?_of_getElem? {c : Catalog} {i : Nat} {r : Record} (hr : c.records[i]? = some r)
    (hidentity : r.identity = i) : c.get? i = some r := by
  simp only [get?, hr, hidentity, if_true]

/-- If the record at a place has another number, all records are searched. -/
lemma get?_of_identity_ne {c : Catalog} {i : Nat}
    (h : ∀ r, c.records[i]? = some r → r.identity ≠ i) :
    c.get? i = get?.search c i := by
  unfold get?
  cases hr : c.records[i]? with
  | none => rfl
  | some r => simp only [h r hr, if_false]

/-- The first record with a number stands in front of its place, or at its place. -/
lemma search_of_getElem? {c : Catalog} {i : Nat} {r : Record} (hr : c.records[i]? = some r)
    (hidentity : r.identity = i) :
    get?.search c i = some (((c.records.take i).find? (·.identity == i)).getD r) := by
  obtain ⟨hi, hget⟩ := List.getElem?_eq_some_iff.mp hr
  have hsplit : c.records = c.records.take i ++ r :: c.records.drop (i + 1) := by
    rw [← hget, List.getElem_cons_drop, List.take_append_drop]
  rw [get?.search]
  conv_lhs => rw [hsplit]
  rw [List.find?_append, List.find?_cons_of_pos (by simp [hidentity])]
  cases (c.records.take i).find? (·.identity == i) with
  | none => rfl
  | some first => rfl

/-- **When the look-up finds the first record with a number**: unless the place of the number has
another one. -/
lemma get?_eq_search_iff (c : Catalog) (i : Nat) :
    c.get? i = get?.search c i ↔ ¬ c.Shadows i := by
  by_cases hplace : ∃ r, c.records[i]? = some r ∧ r.identity = i
  · obtain ⟨r, hr, hidentity⟩ := hplace
    rw [get?_of_getElem? hr hidentity, search_of_getElem? hr hidentity, Option.some.injEq]
    constructor
    · rintro heq ⟨first, r', hfirst, hr', -, hne⟩
      obtain rfl : r = r' := Option.some.inj (hr.symm.trans hr')
      rw [hfirst] at heq
      exact hne heq.symm
    · intro hshadows
      cases hfirst : (c.records.take i).find? (·.identity == i) with
      | none => rfl
      | some first =>
        by_contra hne
        exact hshadows ⟨first, r, hfirst, hr, hidentity, fun heq => hne heq.symm⟩
  · have hother : ∀ r, c.records[i]? = some r → r.identity ≠ i :=
      fun r hr hidentity => hplace ⟨r, hr, hidentity⟩
    refine iff_of_true (get?_of_identity_ne hother) ?_
    rintro ⟨first, r, -, hr, hidentity, -⟩
    exact hother r hr hidentity

/-- The first document with the id of a number is that of the first record with the number. -/
lemma find?_documents (c : Catalog) (i : Nat) :
    c.documents.find? (·.id == toString i) = (get?.search c i).map Record.toDocument := by
  have hids : (fun d : Document => d.id == toString i) ∘ Record.toDocument =
      fun r => r.identity == i := by
    funext r
    rw [Bool.eq_iff_iff]
    simp only [Function.comp_apply, Record.toDocument, beq_iff_eq]
    exact toString_nat_injective.eq_iff
  rw [documents, List.find?_map, hids]
  rfl

end Catalog

/-! ## Keeping the first document with an id -/

/-- A sink that takes a document of some kind exactly if its id is new; `Has` says which documents
it has, and `Shows` which it shows once they have been made to stay. -/
structure Sink.KeepsFirst {σ : Type} (sink : Sink σ) (Has Shows : σ → List Document → Prop)
    (kind : Document → Prop) : Prop where
  addNew : ∀ {s ds d}, Has s ds → kind d → d.id ∉ ds.map (·.id) → Has (sink.add s d).1 (ds ++ [d])
  addTaken : ∀ {s ds d}, Has s ds → d.id ∈ ds.map (·.id) → Has (sink.add s d).1 ds
  flush : ∀ {s ds}, Has s ds → Shows (sink.flush s).1 ds

namespace Sink.KeepsFirst

variable {σ : Type} {sink : Sink σ} {Has Shows : σ → List Document → Prop}
  {kind : Document → Prop}

/-- A document whose id is taken is never the first with it. -/
lemma find?_append_taken {ds : List Document} {d : Document} (h : d.id ∈ ds.map (·.id))
    (more : List Document) (id : String) :
    (ds ++ more).find? (·.id == id) = (ds ++ d :: more).find? (·.id == id) := by
  rw [List.find?_append, List.find?_append]
  by_cases hid : d.id = id
  · obtain ⟨d', hd', hsame⟩ := List.mem_map.mp h
    have hsome : (ds.find? (·.id == id)).isSome := by
      rw [List.find?_isSome]
      exact ⟨d', hd', by simp [hsame, hid]⟩
    rw [Option.or_of_isSome hsome, Option.or_of_isSome hsome]
  · rw [List.find?_cons_of_neg (by simpa using hid)]

/-- **Of documents that are added, the first with an id is stored.**

**Proof sketch.** Induction on the documents. One with a new id comes behind those that are there;
one whose id is taken is not the first with it. -/
lemma addAll (h : sink.KeepsFirst Has Shows kind) {s : σ} {ds : List Document} (hs : Has s ds)
    (more : List Document) (hkind : ∀ d ∈ more, kind d) :
    ∃ stored, Has (CodeCatalog.addAll sink s more).1 stored ∧
      ∀ id, stored.find? (·.id == id) = (ds ++ more).find? (·.id == id) := by
  induction more generalizing s ds with
  | nil => exact ⟨ds, hs, fun id => by rw [List.append_nil]⟩
  | cons d more ih =>
    obtain ⟨hd, hmore⟩ := List.forall_mem_cons.mp hkind
    by_cases htaken : d.id ∈ ds.map (·.id)
    · obtain ⟨stored, hstored, hfind⟩ := ih (h.addTaken hs htaken) hmore
      exact ⟨stored, hstored, fun id => (hfind id).trans (find?_append_taken htaken more id)⟩
    · obtain ⟨stored, hstored, hfind⟩ := ih (h.addNew hs hd htaken) hmore
      exact ⟨stored, hstored, fun id => by rw [hfind, List.append_assoc, List.singleton_append]⟩

/-- **What an empty collection stores of a catalog**: for every number the document of the first
record with it. -/
lemma loadCatalog (h : sink.KeepsFirst Has Shows kind) {s : σ} (hs : Has s []) {c : Catalog}
    (hkind : ∀ d ∈ c.documents, kind d) :
    ∃ stored, Shows (CodeCatalog.loadCatalog sink s c).state stored ∧
      ∀ i : Nat, stored.find? (·.id == toString i) =
        (Catalog.get?.search c i).map Record.toDocument := by
  obtain ⟨stored, hstored, hfind⟩ := h.addAll hs c.documents hkind
  refine ⟨stored, ?_, fun i => by rw [hfind, List.nil_append, c.find?_documents]⟩
  have hflushed := h.flush hstored
  unfold CodeCatalog.loadCatalog
  dsimp only
  split <;> exact hflushed

end Sink.KeepsFirst

/-! ## Both kinds of collections -/

namespace MemoryCollection

/-- A collection in memory with documents, which it finds by their ids. -/
structure Has (m : MemoryCollection) (ds : List Document) : Prop where
  documents : m.documents.toList = ds
  positions : ∀ id : String, m.positions[id]? = ds.findIdx? (·.id == id)

variable {m : MemoryCollection} {ds : List Document}

/-- The document with an id is the first of this id. -/
lemma Has.get?_eq (h : m.Has ds) (id : String) : m.get? id = ds.find? (·.id == id) := by
  rw [get?, h.positions, List.find?_eq_bind_findIdx?_getElem?]
  cases ds.findIdx? (·.id == id) with
  | none => rfl
  | some i => simp [← h.documents]

/-- The ids that have a place are those of the documents. -/
lemma Has.contains_iff (h : m.Has ds) (id : String) :
    m.positions.contains id = true ↔ id ∈ ds.map (·.id) := by
  rw [Std.HashMap.contains_eq_isSome_getElem?, h.positions, List.findIdx?_isSome, List.any_eq_true,
    List.mem_map]
  simp only [beq_iff_eq]

/-- A document with a new id is put behind the others. -/
lemma Has.push (h : m.Has ds) {d : Document} (hnew : d.id ∉ ds.map (·.id)) :
    Has ⟨m.documents.push d, m.positions.insert d.id m.documents.size⟩ (ds ++ [d]) where
  documents := by rw [Array.toList_push, h.documents]
  positions := by
    intro id
    have hsize : m.documents.size = ds.length := by rw [← h.documents, Array.length_toList]
    rw [Std.HashMap.getElem?_insert, h.positions, List.findIdx?_append]
    by_cases hid : d.id = id
    · have hnone : ds.findIdx? (·.id == id) = none := by
        rw [List.findIdx?_eq_none_iff]
        intro d' hd'
        rw [beq_eq_false_iff_ne]
        exact fun hsame => hnew (List.mem_map.mpr ⟨d', hd', hsame.trans hid.symm⟩)
      simp [hid, hnone, hsize]
    · simp [hid]

/-- A document with a new id is added behind the others. -/
lemma Has.add_new (h : m.Has ds) {d : Document} (hnew : d.id ∉ ds.map (·.id)) :
    ∃ m', MemoryCollection.sink.add m d = (m', .ok ()) ∧ m'.Has (ds ++ [d]) := by
  have hcontains : m.positions.contains d.id = false :=
    Bool.eq_false_iff.mpr fun hin => hnew ((h.contains_iff d.id).mp hin)
  refine ⟨_, ?_, h.push hnew⟩
  simp only [sink, MemoryCollection.add, hcontains, Bool.false_eq_true, if_false]

/-- A document whose id is taken is refused, and the collection stays as it is. -/
lemma Has.add_taken (h : m.Has ds) {d : Document} (htaken : d.id ∈ ds.map (·.id)) :
    MemoryCollection.sink.add m d = (m, .error (idExists d.id)) := by
  simp only [sink, MemoryCollection.add, (h.contains_iff d.id).mpr htaken, if_true]

/-- Collections in memory keep the first document with an id. -/
lemma keepsFirst : MemoryCollection.sink.KeepsFirst Has Has fun _ => True where
  addNew := by
    intro m ds d h _ hnew
    obtain ⟨m', hadd, hhas⟩ := h.add_new hnew
    rwa [hadd]
  addTaken := by
    intro m ds d h htaken
    rwa [h.add_taken htaken]
  flush := fun h => h

/-- The empty collection has no documents. -/
lemma has_empty : Has {} [] := ⟨rfl, fun id => by simp⟩

end MemoryCollection

namespace LineCollection

/-- A collection file at a path that has documents, some of which may wait in its buffer. -/
structure Has (path : String) (s : FileSystem × LineCollection) (ds : List Document) : Prop where
  path : s.2.path = path
  stores : s.2.Stores s.1 ds

/-- Collection files keep the first document with an id. -/
lemma keepsFirst (path : String) : LineCollection.sink.KeepsFirst (Has path)
    (fun s ds => readDocuments s.1 path = .ok ds) Document.Flat where
  addNew := by
    intro s ds d h hd hnew
    obtain ⟨fs', c', hadd, hpath, hstores⟩ := h.stores.add_new hd hnew
    simp only [sink, hadd]
    exact ⟨hpath.trans h.path, hstores⟩
  addTaken := by
    intro s ds d h htaken
    simp only [sink, h.stores.add_taken htaken]
    exact h
  flush := by
    intro s ds h
    obtain ⟨fs', c', hflush, hpath, -, hread⟩ := h.stores.flush
    simp only [sink, hflush]
    rwa [← h.path, ← hpath]

end LineCollection

/-! ## The record that is located and the document that is stored -/

/-- **The look-up in a catalog and the document stored for a number.** Whatever numbers the records
of a catalog have, repeated, permuted or with gaps, an empty collection, in memory or in a file,
stores for a number the document of the first record with it. The look-up finds this record, and
its place is shown, exactly unless the record at the place of the number has it too and is another
one.

**Proof sketch.** Both kinds of collections take a document exactly if its id is new
(`Sink.KeepsFirst`), so the first one with an id stays. The look-up tries one place before it
searches from the front (`Catalog.get?_eq_search_iff`). -/
theorem Catalog.located_eq_stored_iff {fs fs' : FileSystem} {catalogPath collectionPath : String}
    {c : Catalog} {collection : LineCollection}
    (hread : Catalog.readFrom fs catalogPath = .ok c) (hbounded : c.Bounded)
    (hcreate : LineCollection.create fs collectionPath = (fs', .ok collection))
    (hdata : fs'.TakesData collectionPath) (i : Nat) :
    (c.get? i = Catalog.get?.search c i ↔ ¬ c.Shadows i) ∧
      (loadCatalog MemoryCollection.sink {} c).state.get? (toString i) =
        (Catalog.get?.search c i).map Record.toDocument ∧
      (∃ stored,
        LineCollection.readDocuments
            (loadCatalog LineCollection.sink (fs', collection) c).state.1 collectionPath =
          .ok stored ∧
        stored.find? (·.id == toString i) = (Catalog.get?.search c i).map Record.toDocument) ∧
      ∀ r, Catalog.get?.search c i = some r → ¬ c.Shadows i →
        Cli.locateRecord fs i catalogPath =
          Cli.printed fs s!"{r.location}\n\n{r.unit.sourceText}\n" := by
  have hflat : ∀ d ∈ c.documents, d.Flat := by
    intro d hd
    obtain ⟨r, hr, rfl⟩ := List.mem_map.mp hd
    exact r.flat_toDocument (hbounded r hr)
  refine ⟨c.get?_eq_search_iff i, ?_, ?_, ?_⟩
  · obtain ⟨stored, hstored, hfind⟩ := MemoryCollection.keepsFirst.loadCatalog
      MemoryCollection.has_empty (c := c) fun _ _ => trivial
    rw [hstored.get?_eq, hfind]
  · obtain ⟨hpath, hstores⟩ := LineCollection.stores_of_create hcreate hdata
    obtain ⟨stored, hstored, hfind⟩ := (LineCollection.keepsFirst collectionPath).loadCatalog
      (s := (fs', collection)) ⟨hpath, hstores⟩ hflat
    exact ⟨stored, hstored, hfind i⟩
  · intro r hr hshadows
    have hget : c.get? i = some r := by rw [(c.get?_eq_search_iff i).mpr hshadows, hr]
    simp only [Cli.locateRecord, hread, hget]

/-! ### A catalog with two records of one number -/

/-- A variable that is assigned on the first line of a file. -/
def firstLineVariable (name : String) : CodeUnit where
  kind := .variable
  name := name
  sourceText := name ++ " = 1"
  filePath := "m.py"
  startLine := 1
  endLine := 1
  startCol := 0
  endCol := some 1

/-- Two records with the number one, the second at its place. -/
def twinCatalog : Catalog := ⟨[⟨1, firstLineVariable "a", 3⟩, ⟨1, firstLineVariable "b", 3⟩]⟩

/-- A directory with the file of this catalog. -/
def twinFiles : List (String × Entry) := [("catalog.json", .file (twinCatalog.toJson true).toUTF8)]

/-- The catalog with two records of one number is read from its file. -/
lemma readFrom_twinFiles :
    Catalog.readFrom ⟨.dir twinFiles, []⟩ "catalog.json" = .ok twinCatalog := by
  have hspot : FileSystem.spot ⟨.dir [], []⟩ true "catalog.json" =
      .ok (.vacant [] "catalog.json") := plainName_catalog.spot rfl
  have hwrite : twinCatalog.writeTo ⟨.dir [], []⟩ "catalog.json" true =
      (⟨.dir twinFiles, []⟩, .ok ()) := by
    simp only [Catalog.writeTo, FileSystem.createParents_of_hasParents
      (plainName_catalog.hasParents ⟨.dir [], []⟩), FileSystem.write, FileSystem.truncate,
      FileSystem.writableSpot, hspot]
    rfl
  exact Catalog.readFrom_of_writeTo (by decide) hwrite

/-- The second record is looked up, and the document of the first one is stored. -/
theorem located_ne_stored_twinCatalog :
    twinCatalog.Shadows 1 ∧ twinCatalog.get? 1 = some ⟨1, firstLineVariable "b", 3⟩ ∧
      twinCatalog.get? 1 ≠ Catalog.get?.search twinCatalog 1 ∧
      (loadCatalog MemoryCollection.sink {} twinCatalog).state.get? "1" =
        some (Record.toDocument ⟨1, firstLineVariable "a", 3⟩) := by
  obtain ⟨fs', collection, hcreate, hdata⟩ := plainName_collection.create twinFiles (by decide)
  obtain ⟨hiff, hmemory, -, -⟩ :=
    Catalog.located_eq_stored_iff readFrom_twinFiles (by decide) hcreate hdata 1
  have hshadows : twinCatalog.Shadows 1 :=
    ⟨⟨1, firstLineVariable "a", 3⟩, ⟨1, firstLineVariable "b", 3⟩, by decide, rfl, rfl, by decide⟩
  exact ⟨hshadows, by decide, fun heq => hiff.mp heq hshadows, hmemory⟩

end CodeCatalog
