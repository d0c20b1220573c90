import CodeCatalog.Proofs.Collection.Appending
import CodeCatalog.Proofs.Collection.Locating

/-!
# Loading into collections that have documents

A catalog is loaded into a collection to which documents were added before. A record is refused
exactly if its number is taken or a record in front of it has the same, all others come behind the
documents that are there, and when the same catalog is loaded once more every record is refused and
nothing changes. A collection file that was opened with an unfinished line is the exception: what
is written behind this line spoils it.

## Main definitions

* `CodeCatalog.verdicts` — how documents fare when some ids are taken.
* `CodeCatalog.Sink.Collects` — sinks that take a document exactly if its id is new, with the
  documents they took.
* `CodeCatalog.Sink.Reaches` — the states of a sink, with the documents that were added.
* `CodeCatalog.LineCollection.Opened` — collection files as they are opened.
* `CodeCatalog.LoadRun.Fares` — what a load does when some ids are taken.

## Main results

* `CodeCatalog.verdicts_getElem?` — a document is refused if its id is taken or stands in front.
* `CodeCatalog.Sink.Collects.addAll`, `Sink.Collects.load` — documents that are added.
* `CodeCatalog.LineCollection.Opened.appends` — collection files are opened at their end.
* `CodeCatalog.loadCatalog_of_reaches` — loading a catalog into a collection, and once more.
-/

namespace CodeCatalog

/-! ## How documents fare -/

/-- How each of several documents fares when some ids are taken. Whether it is added or refused,
its own id is taken afterwards. -/
def verdicts (taken : List String) : List Document → List Addition
  | [] => []
  | d :: ds =>
    (d, if d.id ∈ taken then .error (idExists d.id) else .ok ()) :: verdicts (d.id :: taken) ds

/-- The documents that were refused. -/
def refused (additions : List Addition) : List Document :=
  (additions.filter fun r => !r.2.toBool).map (·.1)

section Verdicts

variable {taken taken' : List String} {d : Document}

/-- A document whose id is taken is refused. -/
lemma verdicts_cons_of_mem (h : d.id ∈ taken) (ds : List Document) :
    verdicts taken (d :: ds) = (d, .error (idExists d.id)) :: verdicts (d.id :: taken) ds := by
  rw [verdicts, if_pos h]

/-- A document whose id is free is added and takes it. -/
lemma verdicts_cons_of_not_mem (h : d.id ∉ taken) (ds : List Document) :
    verdicts taken (d :: ds) = (d, .ok ()) :: verdicts (d.id :: taken) ds := by
  rw [verdicts, if_neg h]

/-- Only which ids are taken counts. -/
lemma verdicts_congr (h : ∀ id, id ∈ taken ↔ id ∈ taken') (ds : List Document) :
    verdicts taken ds = verdicts taken' ds := by
  induction ds generalizing taken taken' with
  | nil => rfl
  | cons d ds ih =>
    have hcons : ∀ id, id ∈ d.id :: taken ↔ id ∈ d.id :: taken' := fun id => by
      rw [List.mem_cons, List.mem_cons, h]
    rw [verdicts, verdicts, ih hcons]
    simp only [h]

/-- There is one verdict for each document. -/
lemma length_verdicts (taken : List String) (ds : List Document) :
    (verdicts taken ds).length = ds.length := by
  induction ds generalizing taken with
  | nil => rfl
  | cons d ds ih => rw [verdicts, List.length_cons, List.length_cons, ih]

/-- **A document is refused** if its id is taken or that of a document in front of it. -/
lemma verdicts_getElem? (taken : List String) (ds : List Document) (i : Nat) :
    (verdicts taken ds)[i]? = ds[i]?.map fun d =>
      (d, if d.id ∈ taken ∨ d.id ∈ (ds.take i).map (·.id) then .error (idExists d.id)
        else .ok ()) := by
  induction ds generalizing taken i with
  | nil => rfl
  | cons d ds ih =>
    cases i with
    | zero => simp [verdicts]
    | succ i =>
      simp only [verdicts, List.getElem?_cons_succ, ih, List.take_succ_cons, List.map_cons,
        List.mem_cons, or_left_comm, or_assoc]

/-- Documents whose ids are taken are all refused. -/
lemma verdicts_of_forall_mem {ds : List Document} (h : ∀ d ∈ ds, d.id ∈ taken) :
    verdicts taken ds = ds.map fun d => (d, .error (idExists d.id)) := by
  induction ds generalizing taken with
  | nil => rfl
  | cons d ds ih =>
    obtain ⟨hd, hds⟩ := List.forall_mem_cons.mp h
    rw [verdicts_cons_of_mem hd, ih fun d' hd' => List.mem_cons_of_mem _ (hds d' hd'),
      List.map_cons]

/-- The report of verdicts: as many as were added, and an error for each one that was refused. -/
lemma ofAdditions_verdicts (taken : List String) (ds : List Document) :
    LoadReport.ofAdditions (verdicts taken ds) =
      ⟨(accepted (verdicts taken ds)).length,
        (refused (verdicts taken ds)).map fun d => idExists d.id⟩ := by
  rw [LoadReport.ofAdditions, LoadReport.mk.injEq, accepted, List.length_map]
  refine ⟨rfl, ?_⟩
  induction ds generalizing taken with
  | nil => rfl
  | cons d ds ih =>
    by_cases hd : d.id ∈ taken
    · rw [verdicts_cons_of_mem hd, List.filterMap_cons, ih]
      rfl
    · rw [verdicts_cons_of_not_mem hd, List.filterMap_cons, ih]
      rfl

/-- Every document is accepted or refused. -/
lemma length_accepted_add_length_refused (additions : List Addition) :
    (accepted additions).length + (refused additions).length = additions.length := by
  rw [accepted, refused, List.length_map, List.length_map]
  simpa [List.countP_eq_length_filter] using
    (List.length_eq_countP_add_countP (fun r : Addition => r.2.toBool) (l := additions)).symm

end Verdicts

/-! ## How catalogs fare -/

/-- What a load of a catalog does when some ids are taken. -/
structure LoadRun.Fares {σ : Type} (run : LoadRun σ) (c : Catalog) (taken : List String) :
    Prop where
  /-- Every record is added once, -/
  length : run.additions.length = c.records.length
  /-- in the order of the catalog, and refused exactly if its number is taken or is that of a
  record in front of it. -/
  additions : ∀ i r, c.records[i]? = some r → run.additions[i]? = some (r.toDocument,
    if toString r.identity ∈ taken ∨ r.identity ∈ (c.records.take i).map (·.identity) then
      .error (idExists (toString r.identity)) else .ok ())
  /-- The load succeeds and reports how many were added, and the errors of the others. -/
  result : run.result = .ok ⟨(accepted run.additions).length,
    (refused run.additions).map fun d => idExists d.id⟩
  total : (accepted run.additions).length + (refused run.additions).length = c.size

/-- A load in which every record is refused. -/
structure LoadRun.RefusesAll {σ : Type} (run : LoadRun σ) (c : Catalog) : Prop where
  additions : run.additions = c.documents.map fun d => (d, .error (idExists d.id))
  result : run.result = .ok ⟨0, c.documents.map fun d => idExists d.id⟩

section LoadRun

variable {σ : Type} {run : LoadRun σ} {c : Catalog} {taken : List String}

/-- A load whose additions are the verdicts fares as they say. -/
lemma LoadRun.fares_of_verdicts (hadditions : run.additions = verdicts taken c.documents)
    (hresult : run.result = .ok (.ofAdditions run.additions)) : run.Fares c taken := by
  have hlength : run.additions.length = c.records.length := by
    rw [hadditions, length_verdicts]
    exact List.length_map _
  refine ⟨hlength, fun i r hr => ?_, ?_, ?_⟩
  · have hdocument : c.documents[i]? = some r.toDocument := by
      rw [Catalog.documents, List.getElem?_map, hr, Option.map_some]
    have hfront : (c.documents.take i).map (·.id) =
        ((c.records.take i).map (·.identity)).map toString := by
      rw [Catalog.documents, ← List.map_take, List.map_map, List.map_map]
      rfl
    rw [hadditions, verdicts_getElem?, hdocument, hfront, Option.map_some]
    simp only [Record.toDocument, List.mem_map_of_injective toString_nat_injective]
  · rw [hresult, hadditions, ofAdditions_verdicts]
  · rw [length_accepted_add_length_refused, hlength, Catalog.size]

/-- What is accepted are documents of records. -/
lemma LoadRun.Fares.exists_of_mem_accepted (h : run.Fares c taken) {d : Document}
    (hd : d ∈ accepted run.additions) : ∃ r ∈ c.records, r.toDocument = d := by
  obtain ⟨addition, haddition, rfl⟩ := List.mem_map.mp hd
  obtain ⟨i, hi, hget⟩ := List.mem_iff_getElem.mp (List.mem_of_mem_filter haddition)
  have hrecord := List.getElem?_eq_getElem (h.length ▸ hi)
  refine ⟨_, List.getElem_mem (h.length ▸ hi), ?_⟩
  have hsome := h.additions i _ hrecord
  rw [List.getElem?_eq_getElem hi, hget, Option.some.injEq] at hsome
  rw [hsome]

/-- A load whose numbers are all taken refuses everything. -/
lemma LoadRun.refusesAll_of_verdicts (hadditions : run.additions = verdicts taken c.documents)
    (hresult : run.result = .ok (.ofAdditions run.additions))
    (htaken : ∀ d ∈ c.documents, d.id ∈ taken) :
    run.RefusesAll c ∧ accepted run.additions = [] := by
  rw [verdicts_of_forall_mem htaken] at hadditions
  have hnone : run.additions.filter (fun r => r.2.toBool) = [] := by
    rw [hadditions, List.filter_map, List.map_eq_nil_iff, List.filter_eq_nil_iff]
    exact fun d _ => Bool.false_ne_true
  refine ⟨⟨hadditions, ?_⟩, by rw [accepted, hnone, List.map_nil]⟩
  have hfailures : c.documents.map (fun d => idExists d.id) =
      c.documents.filterMap (some ∘ fun d => idExists d.id) := by rw [List.filterMap_eq_map]
  rw [hresult, LoadReport.ofAdditions, hnone, hadditions, List.filterMap_map, hfailures]
  rfl

end LoadRun

/-! ## Sinks that collect documents -/

/-- A sink that takes a document exactly if its id is new; `taken` are the ids that are taken in a
state, `Has` says which documents it took, and `Shows` which it shows once they have been made to
stay. -/
structure Sink.Collects {σ : Type} (sink : Sink σ) (taken : σ → List String)
    (Has Shows : σ → List Document → Prop) : Prop where
  addNew : ∀ {s ds d}, Has s ds → d.id ∉ taken s → ∃ s', sink.add s d = (s', .ok ()) ∧
    (∀ id, id ∈ taken s' ↔ id = d.id ∨ id ∈ taken s) ∧ Has s' (ds ++ [d])
  addTaken : ∀ {s ds d}, Has s ds → d.id ∈ taken s → sink.add s d = (s, .error (idExists d.id))
  flush : ∀ {s ds}, Has s ds →
    ∃ s', sink.flush s = (s', .ok ()) ∧ taken s' = taken s ∧ Has s' ds ∧ Shows s' ds

/-- The states that a sink reaches from a state, and the documents that were added on the way. -/
inductive Sink.Reaches {σ : Type} (sink : Sink σ) (s : σ) : List Document → σ → Prop
  | start : Reaches sink s [] s
  | added {ds d s₁ s₂} (h : Reaches sink s ds s₁) (hadd : sink.add s₁ d = (s₂, .ok ())) :
    Reaches sink s (ds ++ [d]) s₂
  | refused {ds d e s₁ s₂} (h : Reaches sink s ds s₁) (hadd : sink.add s₁ d = (s₂, .error e)) :
    Reaches sink s ds s₂
  | flushed {ds s₁ s₂} (h : Reaches sink s ds s₁) (hflush : sink.flush s₁ = (s₂, .ok ())) :
    Reaches sink s ds s₂

namespace Sink.Collects

variable {σ : Type} {sink : Sink σ} {taken : σ → List String}
  {Has Shows : σ → List Document → Prop}

/-- What a sink has after a step is what it had and what was added. -/
lemma reaches (h : sink.Collects taken Has Shows) {s s' : σ} {old ds : List Document}
    (hold : Has s old) (hs : sink.Reaches s ds s') :
    Has s' (old ++ ds) ∧ ∀ id, id ∈ taken s' ↔ id ∈ taken s ∨ id ∈ ds.map (·.id) := by
  induction hs with
  | start => exact ⟨by rwa [List.append_nil], fun id => by simp⟩
  | @added ds d s₁ s₂ _ hadd ih =>
    obtain ⟨hhas, htaken⟩ := ih
    by_cases hd : d.id ∈ taken s₁
    · rw [h.addTaken hhas hd] at hadd
      cases hadd
    · obtain ⟨s₂', hadd', htaken', hhas'⟩ := h.addNew hhas hd
      obtain rfl : s₂' = s₂ := congrArg Prod.fst (hadd'.symm.trans hadd)
      refine ⟨by rwa [← List.append_assoc], fun id => ?_⟩
      rw [htaken', htaken, List.map_append, List.mem_append, List.map_singleton,
        List.mem_singleton, or_comm, or_assoc]
  | @refused ds d e s₁ s₂ _ hadd ih =>
    obtain ⟨hhas, htaken⟩ := ih
    by_cases hd : d.id ∈ taken s₁
    · obtain rfl : s₁ = s₂ := congrArg Prod.fst ((h.addTaken hhas hd).symm.trans hadd)
      exact ⟨hhas, htaken⟩
    · obtain ⟨s₂', hadd', -, -⟩ := h.addNew hhas hd
      cases hadd'.symm.trans hadd
  | @flushed ds s₁ s₂ _ hflush ih =>
    obtain ⟨hhas, htaken⟩ := ih
    obtain ⟨s₂', hflush', hsame, hhas', -⟩ := h.flush hhas
    obtain rfl : s₂' = s₂ := congrArg Prod.fst (hflush'.symm.trans hflush)
    exact ⟨hhas', by rwa [hsame]⟩

/-- **Documents that are added** fare as the ids that are taken say, and those that are accepted
come behind the others. -/
lemma addAll (h : sink.Collects taken Has Shows) {s : σ} {old : List Document} (hold : Has s old)
    (ds : List Document) :
    ∃ s', CodeCatalog.addAll sink s ds = (s', verdicts (taken s) ds) ∧
      (∀ id, id ∈ taken s' ↔ id ∈ taken s ∨ id ∈ ds.map (·.id)) ∧
      Has s' (old ++ accepted (verdicts (taken s) ds)) := by
  induction ds generalizing s old with
  | nil => exact ⟨s, rfl, fun id => by simp, by rwa [verdicts, accepted_nil, List.append_nil]⟩
  | cons d ds ih =>
    by_cases hd : d.id ∈ taken s
    · obtain ⟨s', hall, htaken, hhas⟩ := ih hold
      have hsame : verdicts (d.id :: taken s) ds = verdicts (taken s) ds := by
        refine verdicts_congr (fun id => ?_) ds
        rw [List.mem_cons]
        exact or_iff_right_of_imp fun hid => hid ▸ hd
      rw [verdicts_cons_of_mem hd, accepted_cons_error, hsame]
      refine ⟨s', addAll_cons (h.addTaken hold hd) hall, fun id => ?_, hhas⟩
      rw [htaken, List.map_cons, List.mem_cons, or_left_comm]
      exact (or_iff_right_of_imp fun hid => Or.inl (hid ▸ hd)).symm
    · obtain ⟨s₁, hadd, htaken₁, hhas₁⟩ := h.addNew hold hd
      obtain ⟨s', hall, htaken, hhas⟩ := ih hhas₁
      have hsame : verdicts (taken s₁) ds = verdicts (d.id :: taken s) ds :=
        verdicts_congr (fun id => by rw [htaken₁, List.mem_cons]) ds
      rw [hsame] at hall hhas
      rw [verdicts_cons_of_not_mem hd, accepted_cons_ok]
      refine ⟨s', addAll_cons hadd hall, fun id => ?_, by simpa using hhas⟩
      rw [htaken, htaken₁, List.map_cons, List.mem_cons, or_left_comm, or_assoc]

/-- **Loading a catalog** into a sink that collects documents. -/
lemma load (h : sink.Collects taken Has Shows) {s : σ} {old : List Document} (hold : Has s old)
    (c : Catalog) :
    ∃ run, loadCatalog sink s c = run ∧ run.additions = verdicts (taken s) c.documents ∧
      run.result = .ok (.ofAdditions run.additions) ∧
      (∀ id, id ∈ taken run.state ↔ id ∈ taken s ∨ id ∈ c.documents.map (·.id)) ∧
      Has run.state (old ++ accepted run.additions) ∧
      Shows run.state (old ++ accepted run.additions) := by
  obtain ⟨s₁, hall, htaken, hhas⟩ := h.addAll hold c.documents
  obtain ⟨s₂, hflush, hsame, hhas', hshows⟩ := h.flush hhas
  refine ⟨⟨s₂, verdicts (taken s) c.documents, .ok (.ofAdditions (verdicts (taken s) c.documents))⟩,
    ?_, rfl, rfl, by rwa [hsame], hhas', hshows⟩
  simp only [loadCatalog, hall, hflush]

/-- **Loading a catalog twice**: what was accepted the first time is refused the second time, like
everything that was refused before. -/
lemma loadTwice (h : sink.Collects taken Has Shows) {s : σ} {old : List Document}
    (hold : Has s old) (c : Catalog) (ids : List String) (hids : ∀ id, id ∈ taken s ↔ id ∈ ids) :
    ∃ first second, loadCatalog sink s c = first ∧ loadCatalog sink first.state c = second ∧
      first.Fares c ids ∧ second.RefusesAll c ∧
      Shows first.state (old ++ accepted first.additions) ∧
      Shows second.state (old ++ accepted first.additions) := by
  obtain ⟨first, hfirst, hadditions, hresult, htaken, hhas, hshows⟩ := h.load hold c
  obtain ⟨second, hsecond, hadditions', hresult', -, -, hshows'⟩ := h.load hhas c
  rw [verdicts_congr hids] at hadditions
  obtain ⟨hrefuses, hnone⟩ := LoadRun.refusesAll_of_verdicts hadditions' hresult'
    fun d hd => (htaken d.id).mpr (Or.inr (List.mem_map_of_mem hd))
  rw [hnone, List.append_nil] at hshows'
  exact ⟨first, second, hfirst, hsecond, LoadRun.fares_of_verdicts hadditions hresult, hrefuses,
    hshows, hshows'⟩

end Sink.Collects

/-! ## Both kinds of collections -/

namespace MemoryCollection

/-- Collections in memory collect documents. -/
lemma collects : MemoryCollection.sink.Collects (fun m => m.documents.toList.map (·.id)) Has
    (fun m ds => m.documents.toList = ds) where
  addNew := by
    intro m ds d h hnew
    rw [h.documents] at hnew
    obtain ⟨m', hadd, hhas⟩ := h.add_new hnew
    refine ⟨m', hadd, fun id => ?_, hhas⟩
    rw [hhas.documents, h.documents, List.map_append, List.mem_append, List.map_singleton,
      List.mem_singleton, or_comm]
  addTaken := by
    intro m ds d h htaken
    rw [h.documents] at htaken
    exact h.add_taken htaken
  flush := fun h => ⟨_, rfl, rfl, h, h.documents⟩

end MemoryCollection

namespace LineCollection

/-- A collection file at a path with a content behind which documents were added. -/
structure Extends (path : String) (content : ByteArray) (ids : List String)
    (s : FileSystem × LineCollection) (new : List Document) : Prop where
  path : s.2.path = path
  appends : s.2.Appends s.1 content ids new

/-- Collection files collect documents behind the content they had. -/
lemma collects (path : String) (content : ByteArray) (ids : List String) :
    LineCollection.sink.Collects (fun s => s.2.ids) (Extends path content ids)
      (fun s new => s.1.read path = .ok (content ++ (linesOf new).toUTF8)) where
  addNew := by
    intro s new d h hnew
    obtain ⟨fs', c', hadd, hpath, happends⟩ := (h.appends.add d).resolve_right fun hrefused =>
      hnew hrefused.2
    refine ⟨(fs', c'), hadd, fun id => ?_, hpath.trans h.path, happends⟩
    rw [happends.mem_ids, h.appends.mem_ids, List.map_append, List.mem_append, List.map_singleton,
      List.mem_singleton, ← or_assoc, or_comm]
  addTaken := by
    intro s new d h htaken
    simp only [sink, LineCollection.add, List.contains_iff_mem.mpr htaken, if_true]
  flush := by
    intro s new h
    obtain ⟨fs', file, hflush, -, hholds, hpending⟩ := h.appends.holds.flush
    refine ⟨(fs', { s.2 with file }), ?_, rfl, ⟨h.path, hholds, h.appends.mem_ids⟩, ?_⟩
    · simp only [sink, LineCollection.flush, hflush]
    · rw [← h.path]
      exact (hholds.fileAt hpending).read

/-- A collection file as it is opened, with the documents that it has then. -/
inductive Opened : FileSystem → LineCollection → List Document → Prop
  | created {fs fs' path c} (h : create fs path = (fs', .ok c)) (hdata : fs'.TakesData path) :
    Opened fs' c []
  | missing {fs fs' path c} (hmissing : fs.exists? path = false)
    (h : openExisting fs path = (fs', .ok c)) (hdata : fs'.TakesData path) : Opened fs' c []
  | existing {fs fs' path c ds} (hread : readDocuments fs path = .ok ds)
    (h : openExisting fs path = (fs', .ok c)) (hdata : fs'.TakesData path) : Opened fs' c ds

/-- A collection file that is opened has what was in the file, and nothing was added yet. -/
lemma appends_of_openExisting_eq_ok {fs fs' : FileSystem} {path : String} {c : LineCollection}
    (h : openExisting fs path = (fs', .ok c)) (hdata : fs'.TakesData path) :
    ∃ ids content, existingIds fs path = .ok ids ∧ c.Appends fs' content ids [] := by
  unfold openExisting at h
  split at h
  · cases h
  · rename_i ids hids
    split at h
    · cases h
    · rename_i fs₁ hparents
      split at h
      · cases h
      · rename_i fs₂ place hextend
        cases h
        obtain ⟨content, hfile⟩ := (FileSystem.fileAt_of_extend hextend).resolve_right
          fun ⟨hspot, hfull⟩ => hdata (FileSystem.entry_of_spot hspot hfull)
        refine ⟨ids, content, hids, ⟨content, hfile, Or.inl rfl, ?_⟩, fun id => ?_⟩
        · rw [append_linesOf_nil, ByteArray.append_empty]
        · simp

/-- What reads as documents is there. -/
lemma exists?_of_readDocuments {fs : FileSystem} {path : String} {ds : List Document}
    (h : readDocuments fs path = .ok ds) : fs.exists? path = true := by
  unfold FileSystem.exists?
  cases hentry : fs.entry path with
  | ok e => rfl
  | error e => simp only [readDocuments, FileSystem.read, hentry, reduceCtorEq] at h

/-- **A collection file is opened at its end**, and the ids of its documents are taken. -/
lemma Opened.appends {fs : FileSystem} {c : LineCollection} {ds : List Document}
    (h : Opened fs c ds) : ∃ content, c.Appends fs content (ds.map (·.id)) [] := by
  cases h with
  | created h hdata =>
    obtain ⟨rfl, hstores⟩ := stores_of_create h hdata
    exact ⟨.empty, hstores.holds, by simp [hstores.ids]⟩
  | missing hmissing h hdata =>
    obtain ⟨ids, content, hids, happends⟩ := appends_of_openExisting_eq_ok h hdata
    rw [existingIds, hmissing] at hids
    obtain rfl : [] = ids := Except.ok.inj hids
    exact ⟨content, happends⟩
  | existing hread h hdata =>
    obtain ⟨ids, content, hids, happends⟩ := appends_of_openExisting_eq_ok h hdata
    simp only [existingIds, exists?_of_readDocuments hread, if_true, hread, Except.map,
      Except.ok.injEq] at hids
    refine ⟨content, happends.holds, fun id => ?_⟩
    rw [happends.mem_ids, ← hids, List.mem_eraseDups]

end LineCollection

/-! ## Loading twice -/

/-- **Loading a catalog into a collection that has documents, and once more.** Take a collection in
memory to which any documents were added, or a collection file that was created or opened, whatever
it had, and to which any documents were added, flushed or not. Loading a catalog into it succeeds;
each record is added once, in order, and refused exactly if its number is the id of a document that
is there or the number of a record in front of it. A collection in memory then has its old
documents and behind them those that were accepted. A collection file that would read as its old
documents reads as these and those that were accepted exactly if there are none of the latter, or
if nothing but spaces, tabs and carriage returns stand behind the last line feed. When the catalog
is loaded once more every record is refused, and nothing changes.

**Proof sketch.** Both kinds of collections take a document exactly if its id is new
(`Sink.Collects`), so a load fares as the ids say that are taken, and takes the ids of all its
documents (`Sink.Collects.loadTwice`). What stands in a collection file then is known to the byte,
and `LineCollection.documentsOf_content_append_iff` says how it reads. -/
theorem loadCatalog_of_reaches {ds old new : List Document} {m : MemoryCollection}
    {fs₀ fs : FileSystem} {c₀ c : LineCollection} (hm : MemoryCollection.sink.Reaches {} ds m)
    (hopened : LineCollection.Opened fs₀ c₀ old)
    (hreaches : LineCollection.sink.Reaches (fs₀, c₀) new (fs, c)) (catalog : Catalog) :
    (∃ first second, loadCatalog MemoryCollection.sink m catalog = first ∧
      loadCatalog MemoryCollection.sink first.state catalog = second ∧
      first.Fares catalog (ds.map (·.id)) ∧ second.RefusesAll catalog ∧
      m.documents.toList = ds ∧
      first.state.documents.toList = ds ++ accepted first.additions ∧
      second.state.documents.toList = first.state.documents.toList) ∧
    ∃ first second fs' c' bytes, loadCatalog LineCollection.sink (fs, c) catalog = first ∧
      loadCatalog LineCollection.sink first.state catalog = second ∧
      first.Fares catalog ((old ++ new).map (·.id)) ∧ second.RefusesAll catalog ∧
      second.state.1.read c.path = first.state.1.read c.path ∧
      LineCollection.flush fs c = ((fs', c'), .ok ()) ∧ fs'.read c.path = .ok bytes ∧
      (catalog.Bounded → LineCollection.readDocuments fs' c.path = .ok (old ++ new) →
        (LineCollection.readDocuments first.state.1 c.path =
            .ok (old ++ new ++ accepted first.additions) ↔
          accepted first.additions = [] ∨
            ∀ b ∈ Text.openLine bytes.toList, b = 9 ∨ b = 13 ∨ b = 32)) := by
  constructor
  · obtain ⟨hhas, -⟩ := MemoryCollection.collects.reaches MemoryCollection.has_empty hm
    obtain ⟨first, second, hfirst, hsecond, hfares, hrefuses, hshows, hshows'⟩ :=
      MemoryCollection.collects.loadTwice hhas catalog (ds.map (·.id))
        fun id => by rw [hhas.documents, List.nil_append]
    rw [List.nil_append] at hshows hshows'
    exact ⟨first, second, hfirst, hsecond, hfares, hrefuses, hhas.documents, hshows,
      hshows'.trans hshows.symm⟩
  · obtain ⟨content₀, hstart⟩ := hopened.appends
    obtain ⟨hextends, hids⟩ := (LineCollection.collects c₀.path content₀ (old.map (·.id))).reaches
      ⟨rfl, hstart⟩ hreaches
    -- what is in the file and in its buffer is the content behind which the load writes
    set content := content₀ ++ (linesOf ([] ++ new)).toUTF8
    have hcollects := LineCollection.collects c.path content c.ids
    have hbase : LineCollection.Extends c.path content c.ids (fs, c) [] :=
      ⟨rfl, by rw [LineCollection.append_linesOf_nil]; exact hextends.appends.holds,
        fun id => by simp⟩
    obtain ⟨first, second, hfirst, hsecond, hfares, hrefuses, hshows, hshows'⟩ :=
      hcollects.loadTwice hbase catalog ((old ++ new).map (·.id)) fun id => by
        rw [hids, hstart.mem_ids, List.map_append, List.mem_append, List.map_nil]
        simp
    obtain ⟨⟨fs', c'⟩, hflush, -, -, hbytes⟩ := hcollects.flush hbase
    rw [LineCollection.append_linesOf_nil] at hbytes
    refine ⟨first, second, fs', c', content, hfirst, hsecond, hfares, hrefuses,
      hshows'.trans hshows.symm, hflush, hbytes, fun hbounded hread => ?_⟩
    rw [LineCollection.readDocuments_eq_ok_iff hbytes] at hread
    rw [LineCollection.readDocuments_eq_ok_iff hshows]
    refine LineCollection.documentsOf_content_append_iff hread fun d hd => ?_
    obtain ⟨r, hr, rfl⟩ := hfares.exists_of_mem_accepted hd
    exact r.flat_toDocument (hbounded r hr)

/-! ### A catalog with two records of one number, and a file with an unfinished line -/

namespace LineCollection

/-- A document on a line without an end is read. -/
lemma documentsOf_unfinished {d : Document} (h : d.Flat) :
    documentsOf 1 (Text.byteLines d.line.toUTF8) = .ok [d] := by
  rw [Text.byteLines, Text.byteLinesFrom_nil_of_forall_ne (fun b hb => (h.noControls.bytes b hb).1)
    d.bytes_line_ne_nil]
  exact documentsOf_map (List.forall_mem_singleton.mpr h) 1

/-- A line without an end is open, and not blank. -/
lemma not_forall_isBlank_openLine {d : Document} (h : d.Flat) :
    ¬ ∀ b ∈ Text.openLine d.line.toUTF8.toList, b = 9 ∨ b = 13 ∨ b = 32 := by
  have hbytes : ∀ b ∈ d.line.toUTF8.toList, b ≠ 10 := fun b hb => (h.noControls.bytes b hb).1
  have hopen : Text.openLine d.line.toUTF8.toList = d.line.toUTF8.toList :=
    List.rtakeWhile_eq_self_iff.mpr fun b hb => bne_iff_ne.mpr (hbytes b hb)
  rw [hopen, ← Text.forall_isBlank_iff hbytes]
  exact fun hblank => d.not_forall_isBlank_line fun x hx =>
    Text.isBlank_of_json_isBlank (hblank x hx)

/-- Of two records with the number one the first is added and the second is refused. A collection
in memory then has the document of the first; a file whose line has no end does not read as its old
document and this one. -/
theorem loadCatalog_unfinishedFile :
    ∃ c first second, openExisting unfinishedFile "collection.jsonl" = (unfinishedFile, .ok c) ∧
      readDocuments unfinishedFile "collection.jsonl" = .ok [bareDocument "0" "x"] ∧
      loadCatalog LineCollection.sink (unfinishedFile, c) twinCatalog = first ∧
      first.additions[0]? = some (Record.toDocument ⟨1, firstLineVariable "a", 3⟩, .ok ()) ∧
      first.additions[1]? =
        some (Record.toDocument ⟨1, firstLineVariable "b", 3⟩, .error (idExists "1")) ∧
      readDocuments first.state.1 "collection.jsonl" ≠
        .ok ([bareDocument "0" "x"] ++ accepted first.additions) ∧
      loadCatalog MemoryCollection.sink {} twinCatalog = second ∧
      second.state.documents.toList = accepted second.additions := by
  have hflat := flat_bareDocument "0" "x"
  have hbytes : unfinishedFile.read "collection.jsonl" =
      .ok (bareDocument "0" "x").line.toUTF8 := by
    simp only [FileSystem.read, entry_unfinishedFile]
  have hread := (readDocuments_eq_ok_iff hbytes).mpr (documentsOf_unfinished hflat)
  have hdata : unfinishedFile.TakesData "collection.jsonl" := by
    rw [FileSystem.TakesData, entry_unfinishedFile]
    simp
  obtain ⟨c, hopen, hpath, happends⟩ := appends_of_openExisting entry_unfinishedFile hread
  obtain ⟨⟨second, again, hsecond, -, -, -, -, hmemory, -⟩, first, again', fs', c', bytes, hfirst,
      -, hfares, -, -, hflush, hbytes', hiff⟩ :=
    loadCatalog_of_reaches (.start : MemoryCollection.sink.Reaches {} [] {})
      (.existing hread hopen hdata)
      (.start : LineCollection.sink.Reaches (unfinishedFile, c) [] (unfinishedFile, c)) twinCatalog
  rw [hpath, List.append_nil] at hiff
  -- nothing waits in the buffer, so flushing leaves the line as it is
  have hline : bytes = (bareDocument "0" "x").line.toUTF8 := by
    obtain ⟨fs₁, file, hflush₁, -, hholds, hpending⟩ := happends.holds.flush
    rw [append_linesOf_nil] at hholds
    have hsame : flush unfinishedFile c = ((fs₁, { c with file }), .ok ()) := by
      simp only [flush, hflush₁]
    obtain ⟨⟨rfl, -⟩, -⟩ := by simpa using hflush.symm.trans hsame
    exact Except.ok.inj (hbytes'.symm.trans (hholds.fileAt hpending).read)
  subst hline
  rw [hpath] at hbytes'
  have hadded : first.additions[0]? =
      some (Record.toDocument ⟨1, firstLineVariable "a", 3⟩, .ok ()) := by
    rw [hfares.additions 0 ⟨1, firstLineVariable "a", 3⟩ rfl, if_neg (by decide)]
  refine ⟨c, first, second, hopen, hread, hfirst, hadded, ?_, fun hboth => ?_, hsecond, hmemory⟩
  · rw [hfares.additions 1 ⟨1, firstLineVariable "b", 3⟩ rfl, if_pos (by decide)]
    rfl
  · rcases (hiff (by decide) ((readDocuments_eq_ok_iff hbytes').mpr
      (documentsOf_unfinished hflat))).mp hboth with hnone | hblank
    · have hmem : Record.toDocument ⟨1, firstLineVariable "a", 3⟩ ∈ accepted first.additions :=
        List.mem_map.mpr ⟨_, List.mem_filter.mpr ⟨List.mem_of_getElem? hadded, rfl⟩, rfl⟩
      rw [hnone] at hmem
      cases hmem
    · exact not_forall_isBlank_openLine hflat hblank

end LineCollection

end CodeCatalog
