import Mathlib.Data.List.Nodup
import CodeCatalog.Collection.Load
import CodeCatalog.Proofs.Collection.Documents
import CodeCatalog.Proofs.Files.Writing

/-!
# Collections in files and in memory

A collection file that was started empty behaves like a collection in memory: it accepts and
refuses the same documents for the same reasons, has as many, and has them in the file when it has
been flushed, however often it is closed and opened again on the way.

## Main definitions

* `CodeCatalog.LineCollection.Stores` — a collection file with the documents it stands for.
* `CodeCatalog.Watched`, `CodeCatalog.Watched.run` — what can be seen of a collection while
  documents are added, flushed and opened again.
* `CodeCatalog.Mirrors` — a collection file and a collection in memory with the same documents.

## Main results

* `CodeCatalog.LineCollection.add_of_holds` — what adding a document does to the file.
* `CodeCatalog.LineCollection.Stores.add_new`, `Stores.add_taken`, `Stores.flush`,
  `Stores.reopen` — what one step does to the documents of a collection file.
* `CodeCatalog.Mirrors.step`, `Mirrors.run` — what is seen of a step, and of a run.
* `CodeCatalog.LineCollection.run_eq_memory_run` — the two kinds of collections show the same.
-/

namespace CodeCatalog

/-! ## What a collection file stands for -/

/-- Where nothing is twice, nothing is erased. -/
lemma eraseDups_of_nodup {xs : List String} (h : xs.Nodup) : xs.eraseDups = xs := by
  induction xs with
  | nil => rfl
  | cons x xs ih =>
    obtain ⟨hx, hxs⟩ := List.nodup_cons.mp h
    have hfilter : xs.filter (fun y => !y == x) = xs := by
      refine List.filter_eq_self.mpr fun y hy => ?_
      simpa using fun heq : y = x => hx (heq ▸ hy)
    rw [List.eraseDups_cons, hfilter, ih hxs]

/-- Adding a document and then others. -/
lemma addAll_cons {σ : Type} {sink : Sink σ} {s s₁ s₂ : σ} {d : Document}
    {result : Except SinkError Unit} {ds : List Document} {additions : List Addition}
    (hadd : sink.add s d = (s₁, result)) (hall : addAll sink s₁ ds = (s₂, additions)) :
    addAll sink s (d :: ds) = (s₂, (d, result) :: additions) := by
  simp only [addAll, hadd, hall]

namespace LineCollection

/-- A collection file whose documents are in the file or wait in its buffer. -/
structure Stores (fs : FileSystem) (c : LineCollection) (ds : List Document) : Prop where
  holds : c.file.Holds fs c.path (linesOf ds).toUTF8
  hasParents : fs.HasParents c.path
  ids : c.ids = ds.map (·.id)
  nodup : (ds.map (·.id)).Nodup
  flat : ∀ d ∈ ds, d.Flat

/-- A new collection file is empty, if it takes data at all. -/
lemma stores_of_create {fs fs' : FileSystem} {path : String} {c : LineCollection}
    (h : create fs path = (fs', .ok c)) (hdata : fs'.TakesData path) :
    c.path = path ∧ c.Stores fs' [] := by
  unfold create at h
  split at h
  · cases h
  · rename_i fs₁ hparents
    split at h
    · cases h
    · rename_i fs₂ place htruncate
      cases h
      obtain ⟨hkeeps, hfile | ⟨hspot, hfull⟩⟩ := FileSystem.fileAt_of_truncate htruncate
      · refine ⟨rfl, ⟨.empty, hfile, Or.inr rfl, rfl⟩, ?_, rfl, List.nodup_nil,
          List.forall_mem_nil _⟩
        exact (FileSystem.hasParents_of_createParents hparents).of_keeps hkeeps
      · exact absurd (FileSystem.entry_of_spot hspot hfull) hdata

section Steps

variable {fs : FileSystem} {c : LineCollection} {ds : List Document}

/-- The documents of a file are those on its lines. -/
lemma readDocuments_of_fileAt {path : String} {place : List String}
    (hfile : fs.FileAt path place (linesOf ds).toUTF8) (hflat : ∀ d ∈ ds, d.Flat) :
    readDocuments fs path = .ok ds := by
  simp only [readDocuments, hfile.read, documentsOf_linesOf hflat]

/-- A document with a new id is written behind what is there. -/
lemma add_of_holds {content : ByteArray} (h : c.file.Holds fs c.path content) {d : Document}
    (hnew : c.ids.contains d.id = false) :
    ∃ fs' file, LineCollection.add fs c d = ((fs', ⟨c.path, file, c.ids ++ [d.id]⟩), .ok ()) ∧
      fs.Keeps fs' ∧ file.Holds fs' c.path (content ++ d.line.toUTF8 ++ "\n".toUTF8) := by
  obtain ⟨fs₁, b₁, hline, hkeeps₁, hholds₁⟩ := h.writePiece d.line.toUTF8
  obtain ⟨fs₂, b₂, hend, hkeeps₂, hholds₂⟩ := hholds₁.writePiece "\n".toUTF8
  refine ⟨fs₂, b₂, ?_, hkeeps₁.trans hkeeps₂, hholds₂⟩
  simp only [LineCollection.add, hnew, writeLine, hline, hend, Bool.false_eq_true, if_false]

/-- A document with a new id is added behind the others. -/
lemma Stores.add_new (h : c.Stores fs ds) {d : Document} (hd : d.Flat)
    (hnew : d.id ∉ ds.map (·.id)) :
    ∃ fs' c', LineCollection.add fs c d = ((fs', c'), .ok ()) ∧ c'.path = c.path ∧
      c'.Stores fs' (ds ++ [d]) := by
  have hcontains : c.ids.contains d.id = false := by
    rw [h.ids]
    simpa using hnew
  obtain ⟨fs', file, hadd, hkeeps, hholds⟩ := add_of_holds h.holds hcontains
  refine ⟨fs', _, hadd, rfl, by rwa [linesOf_concat], h.hasParents.of_keeps hkeeps,
    by simp [h.ids], ?_, ?_⟩
  · simpa using h.nodup.concat hnew
  · exact List.forall_mem_append.mpr ⟨h.flat, List.forall_mem_singleton.mpr hd⟩

/-- A document whose id is taken is refused. -/
lemma Stores.add_taken (h : c.Stores fs ds) {d : Document} (htaken : d.id ∈ ds.map (·.id)) :
    LineCollection.add fs c d = ((fs, c), .error (idExists d.id)) := by
  have hcontains : c.ids.contains d.id = true := by
    rw [h.ids]
    simpa using htaken
  simp only [LineCollection.add, hcontains, if_true]

/-- **After a flush the documents are in the file.** -/
lemma Stores.flush (h : c.Stores fs ds) :
    ∃ fs' c', LineCollection.flush fs c = ((fs', c'), .ok ()) ∧ c'.path = c.path ∧
      c'.Stores fs' ds ∧ readDocuments fs' c'.path = .ok ds := by
  obtain ⟨fs', b', hflush, hkeeps, hholds, hpending⟩ := h.holds.flush
  refine ⟨fs', ⟨c.path, b', c.ids⟩, ?_, rfl, ?_,
    readDocuments_of_fileAt (hholds.fileAt hpending) h.flat⟩
  · simp only [LineCollection.flush, hflush]
  · exact ⟨hholds, h.hasParents.of_keeps hkeeps, h.ids, h.nodup, h.flat⟩

/-- **A collection file that is closed and opened again has the same documents.** -/
lemma Stores.reopen (h : c.Stores fs ds) :
    ∃ fs' c', openExisting (close fs c) c.path = (fs', .ok c') ∧ c'.path = c.path ∧
      c'.Stores fs' ds ∧ readDocuments fs' c'.path = .ok ds := by
  obtain ⟨fs', b', hflush, hkeeps, hholds, hpending⟩ := h.holds.flush
  have hfile := hholds.fileAt hpending
  have hparents := h.hasParents.of_keeps hkeeps
  have hread := readDocuments_of_fileAt hfile h.flat
  -- the ids are read from the file, where no id stands twice
  have hids : existingIds fs' c.path = .ok (ds.map (·.id)) := by
    simp only [existingIds, hfile.exists?, if_true, hread, Except.map, eraseDups_of_nodup h.nodup]
  refine ⟨fs', ⟨c.path, ⟨{ place := b'.file.place, appending := true }, .empty⟩, ds.map (·.id)⟩,
    ?_, rfl, ⟨⟨_, hfile, Or.inl rfl, ByteArray.append_empty⟩, hparents, rfl, h.nodup, h.flat⟩,
    hread⟩
  have hclose : close fs c = fs' := by rw [close, hflush]
  simp only [hclose, openExisting, hids, FileSystem.createParents_of_hasParents hparents,
    hfile.extend]

end Steps

end LineCollection

/-! ## What can be seen of a collection -/

/-- A collection that is watched: documents are added to it and made to stay, it is closed and
opened again, its documents are counted and read. -/
structure Watched (σ : Type) extends Sink σ where
  reopen : σ → Except Error σ
  size : σ → Nat
  documents : σ → Except Error (List Document)

/-- A collection in memory; opening it again does nothing. -/
def MemoryCollection.watched : Watched MemoryCollection where
  toSink := MemoryCollection.sink
  reopen := .ok
  size := MemoryCollection.size
  documents c := .ok c.documents.toList

/-- A collection file; its documents are read from the file. -/
def LineCollection.watched : Watched (FileSystem × LineCollection) where
  toSink := LineCollection.sink
  reopen s := match LineCollection.openExisting (s.2.close s.1) s.2.path with
    | (fs, .ok c) => .ok (fs, c)
    | (_, .error e) => .error e
  size s := s.2.size
  documents s := LineCollection.readDocuments s.1 s.2.path

/-- What is done with a collection. -/
inductive CollectionStep where
  | add (d : Document)
  | flush
  | reopen

/-- What is seen of a step: how it ended, how many documents there are then, and, after a flush
or when the collection was opened again, the documents. -/
structure Sight where
  result : Except SinkError Unit
  size : Nat
  documents : Option (List Document)

namespace Watched

variable {σ : Type} (w : Watched σ)

/-- Makes a step. -/
def step (s : σ) : CollectionStep → Except Error (σ × Sight)
  | .add d =>
    let (s, result) := w.add s d
    .ok (s, ⟨result, w.size s, none⟩)
  | .flush =>
    let (s, result) := w.flush s
    match w.documents s with
    | .error e => .error e
    | .ok ds => .ok (s, ⟨result, w.size s, some ds⟩)
  | .reopen =>
    match w.reopen s with
    | .error e => .error e
    | .ok s =>
      match w.documents s with
      | .error e => .error e
      | .ok ds => .ok (s, ⟨.ok (), w.size s, some ds⟩)

/-- Makes one step after the other: the last state, and what is seen of each step. -/
def run (s : σ) : List CollectionStep → Except Error (σ × List Sight)
  | [] => .ok (s, [])
  | step :: steps =>
    match w.step s step with
    | .error e => .error e
    | .ok (s, sight) => (run s steps).map fun (s, sights) => (s, sight :: sights)

end Watched

/-! ## The same documents -/

/-- A collection file and a collection in memory with the same documents, which the latter finds
by their ids. -/
structure Mirrors (s : FileSystem × LineCollection) (m : MemoryCollection) : Prop where
  stores : s.2.Stores s.1 m.documents.toList
  index : ∀ id, m.positions.contains id = true ↔ id ∈ m.documents.toList.map (·.id)

namespace Mirrors

variable {s : FileSystem × LineCollection} {m : MemoryCollection} (h : Mirrors s m)

include h

/-- Both collections have the same size. -/
lemma size_eq : LineCollection.watched.size s = MemoryCollection.watched.size m := by
  simp [LineCollection.watched, MemoryCollection.watched, LineCollection.size,
    MemoryCollection.size, h.stores.ids]

/-- Both accept a document, or both refuse it for the same reason. -/
lemma add {d : Document} (hd : d.Flat) :
    ∃ s' m' result, LineCollection.watched.add s d = (s', result) ∧
      MemoryCollection.watched.add m d = (m', result) ∧ Mirrors s' m' := by
  by_cases htaken : d.id ∈ m.documents.toList.map (·.id)
  · have hcontains := (h.index d.id).mpr htaken
    refine ⟨s, m, .error (idExists d.id), ?_, ?_, h⟩
    · simp only [LineCollection.watched, LineCollection.sink, h.stores.add_taken htaken]
    · simp only [MemoryCollection.watched, MemoryCollection.sink, MemoryCollection.add, hcontains,
        if_true]
  · obtain ⟨fs', c', hadd, -, hstores⟩ := h.stores.add_new hd htaken
    have hcontains : m.positions.contains d.id = false :=
      Bool.eq_false_iff.mpr fun hin => htaken ((h.index d.id).mp hin)
    refine ⟨(fs', c'), ⟨m.documents.push d, m.positions.insert d.id m.documents.size⟩, .ok (),
      ?_, ?_, by simpa using hstores, fun id => ?_⟩
    · simp only [LineCollection.watched, LineCollection.sink, hadd]
    · simp only [MemoryCollection.watched, MemoryCollection.sink, MemoryCollection.add, hcontains,
        Bool.false_eq_true, if_false]
    · rw [Std.HashMap.contains_insert, Bool.or_eq_true, beq_iff_eq, h.index, Array.toList_push,
        List.map_append, List.mem_append, List.map_singleton, List.mem_singleton]
      exact ⟨fun hid => hid.symm.imp_right Eq.symm, fun hid => (hid.imp_right Eq.symm).symm⟩

/-- **Both show the same of a step**, and have the same documents after it. -/
lemma step (step : CollectionStep) (hflat : ∀ d, step = .add d → d.Flat) :
    ∃ s' m' sight, LineCollection.watched.step s step = .ok (s', sight) ∧
      MemoryCollection.watched.step m step = .ok (m', sight) ∧ Mirrors s' m' ∧
      ∀ ds ∈ sight.documents, (ds.map (·.id)).Nodup := by
  cases step with
  | add d =>
    obtain ⟨s', m', result, hline, hmemory, hmirrors⟩ := h.add (hflat d rfl)
    refine ⟨s', m', ⟨result, MemoryCollection.watched.size m', none⟩, ?_, ?_, hmirrors, nofun⟩
    · simp only [Watched.step, hline, hmirrors.size_eq]
    · simp only [Watched.step, hmemory]
  | flush =>
    obtain ⟨fs', c', hflush, -, hstores, hread⟩ := h.stores.flush
    have hmirrors : Mirrors (fs', c') m := ⟨hstores, h.index⟩
    refine ⟨(fs', c'), m, ⟨.ok (), MemoryCollection.watched.size m, some m.documents.toList⟩,
      ?_, rfl, hmirrors, ?_⟩
    · rw [← hmirrors.size_eq]
      simp only [Watched.step, LineCollection.watched, LineCollection.sink, hflush, hread]
    · rintro ds ⟨⟩
      exact h.stores.nodup
  | reopen =>
    obtain ⟨fs', c', hopen, -, hstores, hread⟩ := h.stores.reopen
    have hmirrors : Mirrors (fs', c') m := ⟨hstores, h.index⟩
    refine ⟨(fs', c'), m, ⟨.ok (), MemoryCollection.watched.size m, some m.documents.toList⟩,
      ?_, rfl, hmirrors, ?_⟩
    · rw [← hmirrors.size_eq]
      simp only [Watched.step, LineCollection.watched, hopen, hread]
    · rintro ds ⟨⟩
      exact h.stores.nodup

/-- Both show the same of every step of a run. -/
lemma run (steps : List CollectionStep) (hflat : ∀ d, .add d ∈ steps → d.Flat) :
    ∃ s' m' sights, LineCollection.watched.run s steps = .ok (s', sights) ∧
      MemoryCollection.watched.run m steps = .ok (m', sights) ∧ Mirrors s' m' ∧
      ∀ sight ∈ sights, ∀ ds ∈ sight.documents, (ds.map (·.id)).Nodup := by
  induction steps generalizing s m with
  | nil => exact ⟨s, m, [], rfl, rfl, h, List.forall_mem_nil _⟩
  | cons step steps ih =>
    obtain ⟨s₁, m₁, sight, hline, hmemory, hmirrors, hnodup⟩ :=
      h.step step fun d hd => hflat d (hd ▸ List.mem_cons_self)
    obtain ⟨s₂, m₂, sights, hlines, hmemories, hmirrors', hnodups⟩ :=
      ih hmirrors fun d hd => hflat d (List.mem_cons_of_mem _ hd)
    refine ⟨s₂, m₂, sight :: sights, ?_, ?_, hmirrors', List.forall_mem_cons.mpr
      ⟨hnodup, hnodups⟩⟩
    · simp only [Watched.run, hline, hlines, Except.map]
    · simp only [Watched.run, hmemory, hmemories, Except.map]

end Mirrors

/-- **A collection file shows what a collection in memory shows.** Whatever documents are added
to a new collection file, and wherever it is flushed or closed and opened again between them,
every step ends as it does for a new collection in memory, with the same reason where a document
is refused; both have as many documents after every step; and after every flush the documents in
the file are those in memory, in the same order and with no id twice. -/
theorem LineCollection.run_eq_memory_run {fs fs' : FileSystem} {path : String}
    {c : LineCollection} (hcreate : LineCollection.create fs path = (fs', .ok c))
    (hdata : fs'.TakesData path) (steps : List CollectionStep)
    (hflat : ∀ d, .add d ∈ steps → d.Flat) :
    ∃ s m sights, LineCollection.watched.run (fs', c) steps = .ok (s, sights) ∧
      MemoryCollection.watched.run {} steps = .ok (m, sights) ∧
      ∀ sight ∈ sights, ∀ ds ∈ sight.documents, (ds.map (·.id)).Nodup := by
  obtain ⟨-, hstores⟩ := LineCollection.stores_of_create hcreate hdata
  have hmirrors : Mirrors (fs', c) {} := ⟨hstores, fun id => by simp⟩
  obtain ⟨s, m, sights, hline, hmemory, -, hnodup⟩ := hmirrors.run steps hflat
  exact ⟨s, m, sights, hline, hmemory, hnodup⟩

/-! ### A collection file in the current directory -/

/-- A name of a file in the current directory. -/
structure PlainName (name : String) : Prop where
  fault : FileSystem.pathFault? name = none
  relative : Path.isAbsolute name = false
  parts : Path.splitSlash name = [name]
  parent : Path.parent? name = some ""
  isName : FileSystem.IsName true name []

/-- A free name in the current directory is where a file can be created. -/
lemma PlainName.spot {name : String} (h : PlainName name) {entries : List (String × Entry)}
    (hfree : entries.lookup name = none) :
    (FileSystem.mk (.dir entries) []).spot true name = .ok (.vacant [] name) := by
  have hroot : (FileSystem.mk (.dir entries) []).root.at? [] = some (.dir entries) :=
    Entry.at?_nil _
  have hstart : (FileSystem.mk (.dir entries) []).start name = [] := by
    rw [FileSystem.start, h.relative]
    rfl
  rw [FileSystem.spot_eq_ok_iff, h.parts, hstart]
  exact ⟨h.fault, .vacant hroot h.isName (by rw [Entry.at?_concat hroot, hfree])⟩

/-- A plain name stands in the current directory, which is there. -/
lemma PlainName.hasParents {name : String} (h : PlainName name) (fs : FileSystem) :
    fs.HasParents name := by
  intro parent hparent
  rw [h.parent] at hparent
  exact Or.inl (Option.some.inj hparent).symm

/-- A file in the current directory is found under its name. -/
lemma PlainName.fileAt {name : String} (h : PlainName name) {entries : List (String × Entry)}
    {content : ByteArray} (hfile : entries.lookup name = some (.file content)) :
    (FileSystem.mk (.dir entries) []).FileAt name [name] content := by
  have hroot : (FileSystem.mk (.dir entries) []).root.at? [] = some (.dir entries) :=
    Entry.at?_nil _
  have hat : (FileSystem.mk (.dir entries) []).root.at? [name] = some (.file content) := by
    rw [Entry.at?_dir_cons, hfile, Option.bind_some, Entry.at?_nil]
  have hstart : (FileSystem.mk (.dir entries) []).start name = [] := by
    rw [FileSystem.start, h.relative]
    rfl
  refine ⟨?_, hat⟩
  rw [FileSystem.spot_eq_ok_iff, h.parts, hstart]
  exact ⟨h.fault, .enter hroot h.isName hat (fun _ hlink => by cases hlink) (.done _ _)⟩

/-- A collection file takes the place of a file that is there. -/
lemma LineCollection.create_of_fileAt {fs : FileSystem} {path : String} {place : List String}
    {old : ByteArray} (hfile : fs.FileAt path place old) (hparents : fs.HasParents path) :
    ∃ fs' c, LineCollection.create fs path = (fs', .ok c) ∧ fs'.TakesData path := by
  have hnew := hfile.put .empty
  refine ⟨_, ⟨path, ⟨{ place }, .empty⟩, []⟩, ?_, by
    rw [FileSystem.TakesData, hnew.entry]; nofun⟩
  simp only [LineCollection.create, FileSystem.createParents_of_hasParents hparents,
    FileSystem.truncate, FileSystem.writableSpot, hfile.spot, hfile.at?]

/-- A collection file is created under a free name. -/
lemma PlainName.create {name : String} (h : PlainName name) (entries : List (String × Entry))
    (hfree : entries.lookup name = none) :
    ∃ fs' c, LineCollection.create ⟨.dir entries, []⟩ name = (fs', .ok c) ∧
      fs'.TakesData name := by
  have hspot := h.spot hfree
  have hfile := (FileSystem.fileAt_put_of_vacant hspot .empty).2
  refine ⟨_, ⟨name, ⟨{ place := [name] }, .empty⟩, []⟩, ?_, by
    rw [FileSystem.TakesData, hfile.entry]; nofun⟩
  simp only [LineCollection.create, FileSystem.createParents_of_hasParents (h.hasParents _),
    FileSystem.truncate, FileSystem.writableSpot, hspot]
  rfl

/-- The usual name of a collection file is plain. -/
lemma plainName_collection : PlainName "collection.jsonl" where
  fault := by decide
  relative := by decide
  parts := by decide
  parent := by decide
  isName := ⟨by decide, by decide, rfl, by decide⟩

/-- A document with line ends and control characters in its id, its text and its data. -/
def awkwardDocument : Document where
  id := "a\nb"
  text := "def f():\r\n\treturn '\x00\u2028\\'\n"
  metadata := [("", .null), ("count", .number (.natural Json.maxNatural)), ("flag\n", .bool true),
    ("low", .number (.negative 9223372036854775808)), ("name", .string "\x1f\"")]

/-- The data of the document is flat. -/
lemma awkwardDocument_flat : awkwardDocument.Flat where
  ordered := by decide
  scalar := by
    simp only [awkwardDocument, List.forall_mem_cons]
    exact ⟨.null _, .natural _ (by decide), .bool _ _, .negative _ (by decide) (by decide),
      .string _ _, List.forall_mem_nil _⟩

/-- A document is added, the file is opened again, and then the same document is refused: it is
still in the file. -/
theorem LineCollection.run_awkwardDocument :
    ∃ fs' c s, LineCollection.create ⟨.dir [], []⟩ "collection.jsonl" = (fs', .ok c) ∧
      LineCollection.watched.run (fs', c)
          [.add awkwardDocument, .reopen, .add awkwardDocument, .flush] =
        .ok (s, [⟨.ok (), 1, none⟩, ⟨.ok (), 1, some [awkwardDocument]⟩,
          ⟨.error (idExists "a\nb"), 1, none⟩, ⟨.ok (), 1, some [awkwardDocument]⟩]) := by
  obtain ⟨fs', c, hcreate, hdata⟩ := plainName_collection.create [] rfl
  obtain ⟨s, m, sights, hline, hmemory, -⟩ := LineCollection.run_eq_memory_run hcreate hdata
    [.add awkwardDocument, .reopen, .add awkwardDocument, .flush] (by
      intro d hd
      have hd : d = awkwardDocument := by simpa using hd
      exact hd ▸ awkwardDocument_flat)
  have hseen : MemoryCollection.watched.run {}
      [.add awkwardDocument, .reopen, .add awkwardDocument, .flush] =
        .ok (⟨#[awkwardDocument], ({} : Std.HashMap String Nat).insert "a\nb" 0⟩,
          [⟨.ok (), 1, none⟩, ⟨.ok (), 1, some [awkwardDocument]⟩,
            ⟨.error (idExists "a\nb"), 1, none⟩, ⟨.ok (), 1, some [awkwardDocument]⟩]) := by
    simp [Watched.run, Watched.step, MemoryCollection.watched, MemoryCollection.sink,
      MemoryCollection.add, MemoryCollection.size, Except.map, awkwardDocument]
  obtain ⟨-, rfl⟩ := Prod.mk.inj (Except.ok.inj (hmemory.symm.trans hseen))
  exact ⟨fs', c, s, hcreate, hline⟩

end CodeCatalog
