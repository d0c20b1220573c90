import CodeCatalog.Proofs.Collection.Appending
import CodeCatalog.Proofs.Files.Devices

/-!
# Documents that are rejected

A document is a line that goes through a buffer in two pieces, its text and its end. Over a file
of which any write may fail, a rejected document leaves the ids and the bytes, in the file and in
the buffer, as they were, with one exception: a text that exactly fills the buffer is copied before
the buffer has to be written for the end of the line. If that write fails, the document is rejected
and its text stays in the buffer, so a later flush writes it, without an end.

## Main definitions

* `CodeCatalog.DeviceCollection` — a collection over a file whose writes may fail.
* `CodeCatalog.Device.Fills` — a line whose text exactly fills the buffer.
* `CodeCatalog.Device.leaves` — the bytes that a call leaves.

## Main results

* `CodeCatalog.LineCollection.runsOn_fileDevice` — collections in files run over such a file.
* `CodeCatalog.Device.bytes_perform`, `Device.bytes_performAll` — what calls leave.
* `CodeCatalog.Device.rejected_add` — what a rejected document leaves.
-/

namespace CodeCatalog

open BufferedFile (capacity)

/-! ## Calls -/

/-- A call of a sink. -/
inductive SinkCall where
  | add (d : Document)
  | flush

/-- Performs a call. -/
def Sink.perform {σ : Type} (sink : Sink σ) (s : σ) : SinkCall → σ × Except SinkError Unit
  | .add d => sink.add s d
  | .flush => sink.flush s

/-- Performs calls one after the other, whether they succeed or not. -/
def Sink.performAll {σ : Type} (sink : Sink σ) (s : σ) (calls : List SinkCall) : σ :=
  calls.foldl (fun s call => (sink.perform s call).1) s

/-- No calls change nothing. -/
lemma Sink.performAll_nil {σ : Type} (sink : Sink σ) (s : σ) : sink.performAll s [] = s := rfl

/-! ## Collections over devices -/

/-- A collection over an open file of which any write may fail. -/
structure DeviceCollection (σ : Type) where
  path : String
  buffer : Buffered σ
  /-- The ids of the documents in the file or in its buffer. -/
  ids : List String

namespace Device

variable {σ : Type} (D : Device σ)

/-- Writes a line through the buffer: its text, then its end. -/
def writeLine (b : Buffered σ) (line : String) : Buffered σ × Option OsError :=
  match D.writePiece b line.toUTF8 with
  | (b, some e) => (b, some e)
  | (b, none) => D.writePiece b "\n".toUTF8

/-- Collections over a device. -/
def sink : Sink (DeviceCollection σ) where
  add c d :=
    if c.ids.contains d.id then (c, .error (idExists d.id))
    else
      match D.writeLine c.buffer d.line with
      | (buffer, some e) => ({ c with buffer }, .error (.recordAddFailure d.id e.message))
      | (buffer, none) => ({ c with buffer, ids := c.ids ++ [d.id] }, .ok ())
  flush c :=
    match D.flush c.buffer with
    | (buffer, none) => ({ c with buffer }, .ok ())
    | (buffer, some e) => ({ c with buffer }, .error (.flushFailed s!"{c.path}: {e.message}"))

end Device

namespace LineCollection

/-- A collection in a file, as one over the file system. -/
def onDevice (s : FileSystem × LineCollection) : DeviceCollection (FileSystem × OpenFile) :=
  ⟨s.2.path, s.2.file.buffered s.1, s.2.ids⟩

/-- Whether collections in files run over a device: they begin with it open, and do what
collections over it do. -/
structure RunsOn (D : Device (FileSystem × OpenFile)) : Prop where
  create : ∀ {fs fs' path c}, LineCollection.create fs path = (fs', .ok c) →
    D.IsOpen (onDevice (fs', c)).buffer.state
  openExisting : ∀ {fs fs' path c}, LineCollection.openExisting fs path = (fs', .ok c) →
    D.IsOpen (onDevice (fs', c)).buffer.state
  perform : ∀ s call, D.sink.perform (onDevice s) call =
    (onDevice (LineCollection.sink.perform s call).1, (LineCollection.sink.perform s call).2)

/-- A line is written to an open file as it is to a device. -/
lemma fileDevice_writeLine (fs : FileSystem) (b : BufferedFile) (line : String) :
    fileDevice.writeLine (b.buffered fs) line =
      BufferedFile.bufferedAnswer (writeLine fs b line) := by
  unfold Device.writeLine writeLine
  rw [BufferedFile.fileDevice_writePiece]
  cases hpiece : b.writePiece fs line.toUTF8 with
  | mk state outcome =>
    cases outcome with
    | some e => rfl
    | none => exact BufferedFile.fileDevice_writePiece state.1 state.2 _

/-- **Collections in files run over the device that the file system is.** -/
lemma runsOn_fileDevice : RunsOn fileDevice where
  create := by
    intro fs fs' path c h
    unfold LineCollection.create at h
    split at h
    · cases h
    · split at h
      · cases h
      · rename_i htruncate
        cases h
        obtain ⟨-, hfile | ⟨-, hfull⟩⟩ := FileSystem.fileAt_of_truncate htruncate
        · exact Or.inl ⟨path, _, hfile, Or.inr rfl⟩
        · exact Or.inr hfull
  openExisting := by
    intro fs fs' path c h
    unfold LineCollection.openExisting at h
    split at h
    · cases h
    · split at h
      · cases h
      · split at h
        · cases h
        · rename_i hextend
          cases h
          obtain ⟨content, hfile⟩ | ⟨-, hfull⟩ := FileSystem.fileAt_of_extend hextend
          · exact Or.inl ⟨path, content, hfile, Or.inl rfl⟩
          · exact Or.inr hfull
  perform := by
    rintro ⟨fs, c⟩ (d | _)
    · simp only [Sink.perform, Device.sink, LineCollection.sink, LineCollection.add, onDevice,
        fileDevice_writeLine]
      split
      · rfl
      · cases hline : writeLine fs c.file d.line with
        | mk state outcome => cases outcome <;> rfl
    · simp only [Sink.perform, Device.sink, LineCollection.sink, LineCollection.flush, onDevice,
        BufferedFile.fileDevice_flush]
      cases hflush : c.file.flush fs with
      | mk state outcome => cases outcome <;> rfl

end LineCollection

/-! ## What calls leave -/

/-- The line of a document has bytes. -/
lemma Document.size_line_pos (d : Document) : 0 < d.line.toUTF8.size := by
  refine Nat.pos_of_ne_zero fun hzero => d.bytes_line_ne_nil ?_
  rw [ByteArray.size_eq_zero_iff.mp hzero]
  simp [ByteArray.toList, ByteArray.toList.loop]

namespace Device

variable {σ : Type} (D : Device σ)

/-- Whether the text of a line exactly fills the buffer, behind what waits there already. -/
def Fills (b : Buffered σ) (line : String) : Prop :=
  b.pending.size + line.toUTF8.size = capacity ∧ line.toUTF8.size < capacity

instance (b : Buffered σ) (line : String) : Decidable (Fills b line) :=
  inferInstanceAs (Decidable (_ ∧ _))

/-- The bytes that a call leaves: those of a line for a document that was added, and for one that
could not be written its text, if that fills the buffer. -/
def leaves (c : DeviceCollection σ) : SinkCall → ByteArray
  | .flush => .empty
  | .add d =>
    match (D.sink.add c d).2 with
    | .ok () => d.line.toUTF8 ++ "\n".toUTF8
    | .error _ => if d.id ∉ c.ids ∧ Fills c.buffer d.line then d.line.toUTF8 else .empty

/-- The bytes that calls leave, one after the other. -/
def leavesAll (c : DeviceCollection σ) : List SinkCall → ByteArray
  | [] => .empty
  | call :: calls => D.leaves c call ++ leavesAll (D.sink.perform c call).1 calls

variable {D} {b b' : Buffered σ} {c c' : DeviceCollection σ} {line : String} {d : Document}

/-- A line that was written is there with its end. -/
lemma bytes_writeLine (hb : D.IsOpen b.state) (h : D.writeLine b line = (b', none)) :
    D.IsOpen b'.state ∧ D.bytes b' = D.bytes b ++ (line.toUTF8 ++ "\n".toUTF8) := by
  unfold writeLine at h
  have htext := written_writePiece hb line.toUTF8
  split at h
  · cases h
  · rename_i b₁ hpiece
    rw [hpiece] at htext
    have hend := written_writePiece htext.isOpen "\n".toUTF8
    rw [h] at hend
    refine ⟨hend.isOpen, ?_⟩
    rw [hend.written rfl, htext.written rfl, ByteArray.append_assoc]

/-- **A line that could not be written** has left its text if that fills the buffer, and nothing
otherwise.

**Proof sketch.** The end of the line can fail only behind a text that has filled the buffer, and
such a text is copied without a write. -/
lemma bytes_writeLine_failed {e : OsError} (hb : D.IsOpen b.state) (hline : 0 < line.toUTF8.size)
    (h : D.writeLine b line = (b', some e)) :
    D.IsOpen b'.state ∧
      D.bytes b' = D.bytes b ++ if Fills b line then line.toUTF8 else .empty := by
  have hnewline : "\n".toUTF8.size = 1 := rfl
  have hcapacity : capacity = 8192 := rfl
  unfold writeLine at h
  have htext := written_writePiece hb line.toUTF8
  split at h
  · rename_i b₁ e₁ hpiece
    cases h
    rw [hpiece] at htext
    have hfills : ¬ Fills b line := by
      rintro ⟨hsize, hsmall⟩
      have := lt_size_of_writePiece hsmall hpiece
      omega
    rw [if_neg hfills, ByteArray.append_empty]
    exact ⟨htext.isOpen, htext.failed _ rfl⟩
  · rename_i b₁ hpiece
    rw [hpiece] at htext
    have hroom := lt_size_of_writePiece (by omega) h
    have hfills : Fills b line := fills_of_writePiece hline hpiece (by omega)
    have hend := written_writePiece htext.isOpen "\n".toUTF8
    rw [h] at hend
    rw [if_pos hfills, hend.failed _ rfl]
    exact ⟨hend.isOpen, htext.written rfl⟩

/-- **What an added or rejected document leaves.** A rejected one leaves the ids as they were. -/
lemma bytes_add (hc : D.IsOpen c.buffer.state) (d : Document) :
    D.IsOpen (D.sink.add c d).1.buffer.state ∧
      D.bytes (D.sink.add c d).1.buffer = D.bytes c.buffer ++ D.leaves c (.add d) ∧
      (∀ e, (D.sink.add c d).2 = .error e → (D.sink.add c d).1.ids = c.ids) := by
  unfold leaves
  simp only [sink]
  by_cases htaken : d.id ∈ c.ids
  · simp [htaken, hc]
  · cases hline : D.writeLine c.buffer d.line with
    | mk b outcome =>
      cases outcome with
      | none =>
        obtain ⟨hopen, hbytes⟩ := bytes_writeLine hc hline
        simp [htaken, hopen, hbytes]
      | some e =>
        obtain ⟨hopen, hbytes⟩ := bytes_writeLine_failed hc d.size_line_pos hline
        simp [htaken, hopen, hbytes]

/-- **What a call leaves** behind the bytes that were there. -/
lemma bytes_perform (hc : D.IsOpen c.buffer.state) (call : SinkCall) :
    D.IsOpen (D.sink.perform c call).1.buffer.state ∧
      D.bytes (D.sink.perform c call).1.buffer = D.bytes c.buffer ++ D.leaves c call := by
  cases call with
  | add d => exact ⟨(bytes_add hc d).1, (bytes_add hc d).2.1⟩
  | flush =>
    have hflush := bytes_flush hc
    simp only [Sink.perform, sink, leaves, ByteArray.append_empty]
    cases hanswer : D.flush c.buffer with
    | mk b outcome =>
      rw [hanswer] at hflush
      cases outcome <;> exact hflush

/-- **What calls leave**, one behind the other. -/
lemma bytes_performAll (hc : D.IsOpen c.buffer.state) (calls : List SinkCall) :
    D.IsOpen (D.sink.performAll c calls).buffer.state ∧
      D.bytes (D.sink.performAll c calls).buffer = D.bytes c.buffer ++ D.leavesAll c calls := by
  induction calls generalizing c with
  | nil => exact ⟨hc, ByteArray.append_empty.symm⟩
  | cons call calls ih =>
    obtain ⟨hopen, hbytes⟩ := bytes_perform hc call
    obtain ⟨hopen', hbytes'⟩ := ih hopen
    refine ⟨hopen', ?_⟩
    rw [leavesAll, ← ByteArray.append_assoc, ← hbytes]
    exact hbytes'

/-- What was flushed is in the file. -/
lemma content_of_sink_flush (hc : D.IsOpen c.buffer.state)
    (h : D.sink.flush c = (c', .ok ())) : D.content c'.buffer.state = D.bytes c.buffer := by
  simp only [sink] at h
  cases hanswer : D.flush c.buffer with
  | mk b outcome =>
    rw [hanswer] at h
    cases outcome with
    | none =>
      cases h
      exact content_of_flush hc hanswer
    | some e => cases h

/-- **A rejected document** leaves the ids as they were, whichever write fails, and for collections
in files as for those over any device. It leaves the bytes in the file and in the buffer as they
were exactly if its id was taken or its text does not exactly fill the buffer. Otherwise its text
stays in the buffer, and after any later calls a flush that succeeds has put it into the file, in
front of what those calls leave.

**Proof sketch.** One call at a time (`bytes_perform`): a text that is rejected is in the buffer
only if it has filled it (`bytes_writeLine_failed`). What is in the file and in the buffer then
grows by what calls leave (`bytes_performAll`), and a flush that succeeds empties the buffer. -/
theorem rejected_add (D : Device σ) (c c' : DeviceCollection σ) (hc : D.IsOpen c.buffer.state)
    (d : Document) (e : SinkError) (h : D.sink.add c d = (c', .error e)) :
    LineCollection.RunsOn fileDevice ∧ c'.ids = c.ids ∧
      (D.bytes c'.buffer = D.bytes c.buffer ↔ d.id ∈ c.ids ∨ ¬ Fills c.buffer d.line) ∧
      (d.id ∉ c.ids → Fills c.buffer d.line →
        D.bytes c'.buffer = D.bytes c.buffer ++ d.line.toUTF8) ∧
      ∀ calls c'', D.sink.flush (D.sink.performAll c' calls) = (c'', .ok ()) →
        D.content c''.buffer.state = D.bytes c'.buffer ++ D.leavesAll c' calls := by
  obtain ⟨hopen, hbytes, hids⟩ := bytes_add hc d
  rw [h] at hopen hbytes hids
  simp only [leaves, h] at hbytes
  refine ⟨LineCollection.runsOn_fileDevice, hids e rfl, ?_, ?_, ?_⟩
  · by_cases hleft : d.id ∉ c.ids ∧ Fills c.buffer d.line
    · rw [if_pos hleft] at hbytes
      have hsize := d.size_line_pos
      have hne : D.bytes c'.buffer ≠ D.bytes c.buffer := by
        intro heq
        have := congrArg ByteArray.size (hbytes.symm.trans heq)
        rw [ByteArray.size_append] at this
        omega
      exact iff_of_false hne fun h => h.elim hleft.1 fun hroom => hroom hleft.2
    · rw [if_neg hleft, ByteArray.append_empty] at hbytes
      exact iff_of_true hbytes ((not_and_or.mp hleft).imp_left not_not.mp)
  · intro hnew hfills
    rw [hbytes, if_pos ⟨hnew, hfills⟩]
  · intro calls c'' hflush
    obtain ⟨hopen', hbytes'⟩ := bytes_performAll hopen calls
    rw [← hbytes']
    exact content_of_sink_flush hopen' hflush

/-! ### A device that fails once -/

/-- A file of which the first writes fail. -/
def faulty : Device (Nat × ByteArray) where
  write := fun
    | (0, content), bytes => ((0, content ++ bytes), none)
    | (failures + 1, content), _ => ((failures, content), some .noSpace)
  content := Prod.snd
  IsOpen _ := True
  isOpen_write _ _ := trivial
  content_write := by
    rintro ⟨_ | failures, content⟩ s' bytes - hwrite <;> cases hwrite
    rfl
  content_failed := by
    rintro ⟨_ | failures, content⟩ s' bytes e - hwrite <;> cases hwrite
    rfl

/-- A collection whose buffer has as much room as the text of a line needs, over a file of which
the next write fails. -/
def tight (line : String) : DeviceCollection (Nat × ByteArray) where
  path := "collection.jsonl"
  buffer := ⟨(1, .empty), ⟨Array.replicate (capacity - line.toUTF8.size) 32⟩⟩
  ids := []

/-- The same collection with the text in the buffer, behind the write that fails. -/
def brimful (line : String) : DeviceCollection (Nat × ByteArray) where
  path := "collection.jsonl"
  buffer := ⟨(0, .empty), (tight line).buffer.pending ++ line.toUTF8⟩
  ids := []

section Tight

variable (h : line.toUTF8.size < capacity)
include h

/-- The line fills the buffer to the brim. -/
lemma fills_tight : Fills (tight line).buffer line := by
  have hpending : (tight line).buffer.pending.size = capacity - line.toUTF8.size :=
    Array.size_replicate
  exact ⟨by omega, h⟩

/-- The buffer is full. -/
lemma size_pending_brimful : (brimful line).buffer.pending.size = capacity :=
  ByteArray.size_append.trans (fills_tight h).1

/-- The end of the line needs a write, which fails. -/
lemma writeLine_tight :
    faulty.writeLine (tight line).buffer line = ((brimful line).buffer, some .noSpace) := by
  have hfull := size_pending_brimful h
  have htext := (writePiece_of_fits (D := faulty) (fills_tight h).1.le).trans (place_of_small h)
  have hpending : ¬ (brimful line).buffer.pending.isEmpty := by
    simp [ByteArray.isEmpty, hfull, capacity]
  have hflush : faulty.flush ⟨(1, .empty), (brimful line).buffer.pending⟩ =
      ((brimful line).buffer, some .noSpace) := if_neg hpending
  have hroom : capacity < (brimful line).buffer.pending.size + "\n".toUTF8.size := by
    rw [hfull]
    decide
  rw [writeLine, htext]
  exact writePiece_of_flush_failed (by decide) hroom hflush

/-- A later flush does not fail. -/
lemma flush_brimful : ∃ c, faulty.sink.flush (brimful line) = (c, .ok ()) := by
  have hpending : ¬ (brimful line).buffer.pending.isEmpty := by
    simp [ByteArray.isEmpty, size_pending_brimful h, capacity]
  have hflush : faulty.flush (brimful line).buffer =
      (⟨(0, .empty ++ (brimful line).buffer.pending), .empty⟩, none) := if_neg hpending
  simp only [sink, hflush]
  exact ⟨_, rfl⟩

end Tight

/-- The document that does not fit. -/
def lateDocument : Document := LineCollection.bareDocument "1" "y"

/-- **A rejected document is written later**: its text exactly fills the buffer, the write that the
end of its line needs fails, and the flush behind it puts the text into the file. -/
theorem faulty_writes_rejected :
    ∃ c e, faulty.sink.add (tight lateDocument.line) lateDocument =
        (brimful lateDocument.line, .error e) ∧
      (brimful lateDocument.line).ids = (tight lateDocument.line).ids ∧
      faulty.sink.flush (brimful lateDocument.line) = (c, .ok ()) ∧
      faulty.content c.buffer.state =
        faulty.bytes (tight lateDocument.line).buffer ++ lateDocument.line.toUTF8 := by
  have hsmall : lateDocument.line.toUTF8.size < capacity := by decide
  have hadd : faulty.sink.add (tight lateDocument.line) lateDocument = (brimful lateDocument.line,
      .error (.recordAddFailure lateDocument.id OsError.noSpace.message)) := by
    simp only [sink, writeLine_tight hsmall]
    rfl
  obtain ⟨c, hflush⟩ := flush_brimful hsmall
  obtain ⟨-, hids, -, hleft, hlater⟩ :=
    rejected_add faulty (tight lateDocument.line) _ trivial lateDocument _ hadd
  refine ⟨c, _, hadd, hids, hflush, ?_⟩
  rw [hlater [] c (by rw [Sink.performAll_nil, hflush]), leavesAll, ByteArray.append_empty,
    hleft List.not_mem_nil (fills_tight hsmall)]

end Device

end CodeCatalog
