import CodeCatalog.Proofs.Collection.Reloading

/-!
# The index of a collection in memory

A collection in memory keeps its documents in a list, and for every id the place of the document
with it. A document that is added changes the index first and the list then; one that is refused
changes neither. After any documents were added, every entry of the index leads to a document of
the list, and every document of the list has an entry.

## Main definitions

* `CodeCatalog.firstWithIds` — documents without those whose id stands in front of them.
* `CodeCatalog.MemoryCollection.Indexed` — collections whose index and list agree.

## Main results

* `CodeCatalog.accepted_verdicts_nil` — what is accepted is the first document with each id.
* `CodeCatalog.MemoryCollection.Has.indexed` — an index by first places agrees with a list of
  documents with different ids.
* `CodeCatalog.MemoryCollection.addAll_new` — what a new collection has of documents that are added.
-/

namespace CodeCatalog

/-! ## The first document with each id -/

/-- Documents without those whose id a document in front of them has. -/
def firstWithIds (ds : List Document) : List Document := ds.eraseDupsBy fun d d' => d.id == d'.id

section Verdicts

/-- The first document with an id counts, and the others with this id are dropped. -/
lemma firstWithIds_cons (d : Document) (ds : List Document) :
    firstWithIds (d :: ds) = d :: firstWithIds (ds.filter fun d' => d'.id ≠ d.id) := by
  rw [firstWithIds, List.eraseDupsBy_cons, firstWithIds]
  congr 3
  funext d'
  simp

/-- What is accepted are the first documents with ids that are not taken.

**Proof sketch.** Induction on the documents. Behind the first one its id is taken, so the others
with it are refused, and they are the ones that it removes. -/
lemma accepted_verdicts (taken : List String) (ds : List Document) :
    accepted (verdicts taken ds) = firstWithIds (ds.filter fun d => d.id ∉ taken) := by
  induction ds generalizing taken with
  | nil => rfl
  | cons d ds ih =>
    by_cases hd : d.id ∈ taken
    · have hothers : ∀ d' ∈ ds, decide (d'.id ∉ d.id :: taken) = decide (d'.id ∉ taken) := by
        intro d' _
        rw [decide_eq_decide, List.mem_cons, or_iff_right_of_imp fun hsame => hsame ▸ hd]
      rw [verdicts_cons_of_mem hd, accepted_cons_error, ih, List.filter_congr hothers,
        List.filter_cons_of_neg (by simpa using hd)]
    · have hothers : ∀ d' ∈ ds, decide (d'.id ∉ d.id :: taken) =
          (decide (d'.id ≠ d.id) && decide (d'.id ∉ taken)) := by
        intro d' _
        rw [← Bool.decide_and, decide_eq_decide, List.mem_cons, not_or]
      rw [verdicts_cons_of_not_mem hd, accepted_cons_ok, ih,
        List.filter_cons_of_pos (by simpa using hd), firstWithIds_cons, List.filter_filter,
        List.filter_congr hothers]

/-- With no ids taken, the first document of each id is accepted. -/
lemma accepted_verdicts_nil (ds : List Document) :
    accepted (verdicts [] ds) = firstWithIds ds := by
  rw [accepted_verdicts, List.filter_eq_self.mpr fun d _ => by simp]

/-- The documents that are accepted have different ids, none of them taken. -/
lemma nodup_accepted_verdicts (taken : List String) (ds : List Document) :
    ((accepted (verdicts taken ds)).map (·.id)).Nodup ∧
      ∀ id ∈ (accepted (verdicts taken ds)).map (·.id), id ∉ taken := by
  induction ds generalizing taken with
  | nil => exact ⟨List.nodup_nil, fun _ h => nomatch h⟩
  | cons d ds ih =>
    obtain ⟨hnodup, hfree⟩ := ih (d.id :: taken)
    have hrest : ∀ id ∈ (accepted (verdicts (d.id :: taken) ds)).map (·.id),
        id ≠ d.id ∧ id ∉ taken := fun id hid => by simpa using hfree id hid
    by_cases hd : d.id ∈ taken
    · rw [verdicts_cons_of_mem hd, accepted_cons_error]
      exact ⟨hnodup, fun id hid => (hrest id hid).2⟩
    · rw [verdicts_cons_of_not_mem hd, accepted_cons_ok, List.map_cons]
      refine ⟨List.nodup_cons.mpr ⟨fun hmem => (hrest _ hmem).1 rfl, hnodup⟩, ?_⟩
      exact List.forall_mem_cons.mpr ⟨hd, fun id hid => (hrest id hid).2⟩

end Verdicts

/-! ## The index and the list -/

namespace MemoryCollection

/-- A collection whose index and list of documents agree. -/
structure Indexed (m : MemoryCollection) : Prop where
  /-- An entry of the index leads to a place inside the list, to the document with its id. -/
  leads : ∀ {id i}, m.positions[id]? = some i → ∃ h : i < m.documents.size, m.documents[i].id = id
  /-- Every document has an entry with its place. -/
  entry : ∀ i (h : i < m.documents.size), m.positions[m.documents[i].id]? = some i

variable {m : MemoryCollection} {ds : List Document}

/-- An index by the first places of ids agrees with documents whose ids are different. -/
lemma Has.indexed (h : m.Has ds) (hds : (ds.map (·.id)).Nodup) : m.Indexed where
  leads := by
    intro id i hi
    rw [h.positions, List.findIdx?_eq_some_iff_getElem] at hi
    obtain ⟨hlt, hsame, -⟩ := hi
    obtain rfl := h.documents
    exact ⟨by simpa using hlt, by simpa using hsame⟩
  entry := by
    intro i hi
    obtain rfl := h.documents
    rw [h.positions, List.findIdx?_eq_some_iff_getElem]
    refine ⟨by simpa using hi, by simp, fun j hj hsame => ?_⟩
    -- a document in front of it with its id would stand at the same place
    have hjlt : j < (m.documents.toList.map (·.id)).length := by simpa using hj.trans hi
    have hilt : i < (m.documents.toList.map (·.id)).length := by simpa using hi
    have hids : (m.documents.toList.map (·.id))[j] = (m.documents.toList.map (·.id))[i] := by
      simpa using hsame
    have hplace := hds.getElem_inj_iff.mp hids
    omega

/-- A new collection takes the first document with each id, and then all the ids are taken. -/
lemma addAll_empty (ds : List Document) :
    ∃ m, addAll MemoryCollection.sink {} ds = (m, verdicts [] ds) ∧ m.Has (firstWithIds ds) ∧
      ∀ id, id ∈ m.documents.toList.map (·.id) ↔ id ∈ ds.map (·.id) := by
  obtain ⟨m, hall, htaken, hhas⟩ := collects.addAll has_empty ds
  have hnone : (({} : MemoryCollection).documents.toList.map fun d => d.id) = [] := rfl
  simp only [hnone, List.not_mem_nil, false_or] at hall htaken hhas
  refine ⟨m, hall, ?_, htaken⟩
  rwa [← accepted_verdicts_nil]

/-- **Documents that are added to a new collection in memory.** Whatever they are, the index and
the list agree afterwards, so no look-up leaves the list. The list has the first document with each
id, in the order in which they were added, and that one is found under the id. One more document is
refused exactly if its id was added before, and then the collection stays as it is.

**Proof sketch.** Every step keeps an index by the first places of ids (`collects`), and the
documents that are accepted have different ids (`nodup_accepted_verdicts`), so the entries are all
the places (`Has.indexed`). -/
theorem addAll_new (ds : List Document) :
    ∃ m, addAll MemoryCollection.sink {} ds = (m, verdicts [] ds) ∧ m.Indexed ∧
      m.documents.toList = firstWithIds ds ∧ (∀ id, m.get? id = ds.find? (·.id == id)) ∧
      ∀ d, d.id ∈ ds.map (·.id) ∧ MemoryCollection.sink.add m d = (m, .error (idExists d.id)) ∨
        d.id ∉ ds.map (·.id) ∧ ∃ m', MemoryCollection.sink.add m d = (m', .ok ()) ∧
          m'.documents.toList = m.documents.toList ++ [d] := by
  obtain ⟨m, hall, hhas, htaken⟩ := addAll_empty ds
  obtain ⟨stored, hstored, hfind⟩ := keepsFirst.addAll has_empty ds fun _ _ => trivial
  rw [hall] at hstored
  have hnodup : ((firstWithIds ds).map (·.id)).Nodup := by
    rw [← accepted_verdicts_nil]
    exact (nodup_accepted_verdicts [] ds).1
  refine ⟨m, hall, hhas.indexed hnodup, hhas.documents, fun id => ?_, fun d => ?_⟩
  · rw [hstored.get?_eq, hfind, List.nil_append]
  · by_cases hd : d.id ∈ ds.map (·.id)
    · exact Or.inl ⟨hd, collects.addTaken hhas ((htaken d.id).mpr hd)⟩
    · obtain ⟨m', hadd, -, hhas'⟩ := collects.addNew hhas (mt (htaken d.id).mp hd)
      exact Or.inr ⟨hd, m', hadd, by rw [hhas'.documents, hhas.documents]⟩

end MemoryCollection

end CodeCatalog
