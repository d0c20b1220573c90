import CodeCatalog.Proofs.Files.Writing

/-!
# Files whose writes may fail

Any write to an open file may fail, and a later one may succeed again. A write that fails has
written nothing. Over such a file, whichever of its writes fail, a buffer loses nothing and adds
nothing: what is in the file and behind it in the buffer grows by exactly the pieces that were
written without a failure. The files of a file system are one case, in which the writes to a device
without room fail.

## Main definitions

* `CodeCatalog.Device` — an open file of which any write may fail.
* `CodeCatalog.Device.flush`, `Device.writePiece` — writing to it through a buffer.
* `CodeCatalog.Device.bytes` — what is in the file, and behind it in the buffer.
* `CodeCatalog.fileDevice` — the open files of a file system.

## Main results

* `CodeCatalog.Device.bytes_flush`, `Device.written_writePiece` — what a write leaves.
* `CodeCatalog.Device.size_of_writePiece_newline` — when a line feed cannot be written.
* `CodeCatalog.fileDevice_flush`, `fileDevice_writePiece` — a buffered file writes as a buffer over
  the file system does.
-/

namespace CodeCatalog

/-- A file that is open for writing at its end. A write puts all of its bytes behind the content,
or it fails and puts none there.

That failing writes are atomic is an assumption: an operating system may have taken a first part
of the bytes before it fails, and as they still wait in the buffer, that part would be written
twice. -/
structure Device (σ : Type) where
  write : σ → ByteArray → σ × Option OsError
  /-- The bytes in the file. -/
  content : σ → ByteArray
  /-- The states in which the file is open at its end. -/
  IsOpen : σ → Prop
  isOpen_write : ∀ {s : σ} (bytes : ByteArray), IsOpen s → IsOpen (write s bytes).1
  content_write : ∀ {s s' : σ} {bytes : ByteArray}, IsOpen s → write s bytes = (s', none) →
    content s' = content s ++ bytes
  content_failed : ∀ {s s' : σ} {bytes : ByteArray} {e : OsError}, IsOpen s →
    write s bytes = (s', some e) → content s' = content s

/-- The state of an open file, with the bytes that wait to be written. -/
structure Buffered (σ : Type) where
  state : σ
  pending : ByteArray

namespace Device

open BufferedFile (capacity)

variable {σ : Type} (D : Device σ)

/-- Writes what waits in the buffer, if anything does. What cannot be written stays there. -/
def flush (b : Buffered σ) : Buffered σ × Option OsError :=
  if b.pending.isEmpty then (b, none)
  else
    match D.write b.state b.pending with
    | (state, none) => (⟨state, .empty⟩, none)
    | (state, some e) => ({ b with state }, some e)

/-- Writes a piece when the buffer has room for it or has been written. -/
def place (b : Buffered σ) (piece : ByteArray) : Buffered σ × Option OsError :=
  if piece.size ≥ capacity then
    match D.write b.state piece with
    | (state, outcome) => ({ b with state }, outcome)
  else ({ b with pending := b.pending ++ piece }, none)

/-- Writes a piece through the buffer. -/
def writePiece (b : Buffered σ) (piece : ByteArray) : Buffered σ × Option OsError :=
  if piece.size ≤ capacity - b.pending.size then D.place b piece
  else
    match D.flush b with
    | (b, some e) => (b, some e)
    | (b, none) => D.place b piece

/-- What is in the file, and behind it in the buffer. -/
def bytes (b : Buffered σ) : ByteArray := D.content b.state ++ b.pending

/-- What a write of a piece leaves: the piece behind what was there, or nothing if it failed. -/
structure Written (b : Buffered σ) (piece : ByteArray) (answer : Buffered σ × Option OsError) :
    Prop where
  isOpen : D.IsOpen answer.1.state
  written : answer.2 = none → D.bytes answer.1 = D.bytes b ++ piece
  failed : ∀ e, answer.2 = some e → D.bytes answer.1 = D.bytes b

variable {D} {b b' : Buffered σ} {piece : ByteArray}

/-! ## Flushing -/

/-- Flushing moves bytes from the buffer into the file, all or none of them. -/
lemma bytes_flush (hb : D.IsOpen b.state) :
    D.IsOpen (D.flush b).1.state ∧ D.bytes (D.flush b).1 = D.bytes b := by
  unfold flush
  split
  · exact ⟨hb, rfl⟩
  · have hopen := D.isOpen_write b.pending hb
    cases hwrite : D.write b.state b.pending with
    | mk state outcome =>
      rw [hwrite] at hopen
      cases outcome with
      | none => exact ⟨hopen, by simp [bytes, D.content_write hb hwrite]⟩
      | some e => exact ⟨hopen, by simp [bytes, D.content_failed hb hwrite]⟩

/-- Behind a flush that did not fail the buffer is empty. -/
lemma pending_of_flush (h : D.flush b = (b', none)) : b'.pending = .empty := by
  unfold flush at h
  split at h
  · rename_i hempty
    cases h
    simpa [ByteArray.isEmpty] using hempty
  · split at h <;> cases h
    rfl

/-- **What was flushed is in the file.** -/
lemma content_of_flush (hb : D.IsOpen b.state) (h : D.flush b = (b', none)) :
    D.content b'.state = D.bytes b := by
  have hbytes := (bytes_flush hb).2
  rw [h] at hbytes
  rw [← hbytes, bytes, pending_of_flush h, ByteArray.append_empty]

/-! ## Writing pieces -/

/-- Placing a piece leaves it behind what was there, or nothing if that fails. -/
lemma written_place (hb : D.IsOpen b.state) (piece : ByteArray)
    (hpending : piece.size ≥ capacity → b.pending = .empty) :
    D.Written b piece (D.place b piece) := by
  unfold place
  split
  · rename_i hlarge
    have hopen := D.isOpen_write piece hb
    cases hwrite : D.write b.state piece with
    | mk state outcome =>
      rw [hwrite] at hopen
      refine ⟨hopen, ?_, ?_⟩
      · rintro rfl
        simp [bytes, D.content_write hb hwrite, hpending hlarge]
      · rintro e rfl
        simp [bytes, D.content_failed hb hwrite]
  · exact ⟨hb, fun _ => ByteArray.append_assoc.symm, nofun⟩

/-- A piece that fits into the buffer goes there without a flush. -/
lemma writePiece_of_fits (hfits : b.pending.size + piece.size ≤ capacity) :
    D.writePiece b piece = D.place b piece :=
  if_pos (by omega)

/-- **Writing a piece** puts it behind what was there, or fails and puts nothing there. -/
lemma written_writePiece (hb : D.IsOpen b.state) (piece : ByteArray) :
    D.Written b piece (D.writePiece b piece) := by
  unfold writePiece
  split
  · rename_i hroom
    refine written_place hb piece fun hlarge => ByteArray.size_eq_zero_iff.mp ?_
    have : capacity = 8192 := rfl
    omega
  · obtain ⟨hopen, hbytes⟩ := bytes_flush hb
    cases hflush : D.flush b with
    | mk flushed outcome =>
      rw [hflush] at hopen hbytes
      cases outcome with
      | some e => exact ⟨hopen, nofun, fun _ _ => hbytes⟩
      | none =>
        have h := written_place hopen piece fun _ => pending_of_flush hflush
        exact ⟨h.isOpen, fun hnone => hbytes ▸ h.written hnone,
          fun e he => hbytes ▸ h.failed e he⟩

/-- A small piece is put into the buffer without a failure. -/
lemma place_of_small (hsmall : piece.size < capacity) :
    D.place b piece = ({ b with pending := b.pending ++ piece }, none) :=
  if_neg (by omega)

/-- A small piece cannot be written only if the buffer has no room for it. -/
lemma lt_size_of_writePiece {e : OsError} (hsmall : piece.size < capacity)
    (h : D.writePiece b piece = (b', some e)) : capacity < b.pending.size + piece.size := by
  by_contra hroom
  rw [writePiece_of_fits (by omega), place_of_small hsmall] at h
  cases h

/-- A piece for which the buffer has no room fails if the buffer cannot be written. -/
lemma writePiece_of_flush_failed {e : OsError} (hpiece : 0 < piece.size)
    (hroom : capacity < b.pending.size + piece.size) (h : D.flush b = (b', some e)) :
    D.writePiece b piece = (b', some e) := by
  unfold writePiece
  rw [if_neg (by omega), h]

/-- What waits in the buffer behind a piece that was put or written. -/
lemma pending_of_place (h : D.place b piece = (b', none)) :
    b'.pending = if piece.size ≥ capacity then b.pending else b.pending ++ piece := by
  unfold place at h
  split at h
  · rename_i hlarge
    obtain ⟨rfl, -⟩ := Prod.mk.inj h
    rw [if_pos hlarge]
  · rename_i hsmall
    cases h
    rw [if_neg hsmall]

/-- The buffer is full behind a piece only if the piece has filled it. -/
lemma fills_of_writePiece (hpiece : 0 < piece.size) (h : D.writePiece b piece = (b', none))
    (hfull : capacity ≤ b'.pending.size) :
    b.pending.size + piece.size = capacity ∧ piece.size < capacity := by
  have hcapacity : capacity = 8192 := rfl
  unfold writePiece at h
  split at h
  · rename_i hroom
    rw [pending_of_place h] at hfull
    split at hfull
    · omega
    · rw [ByteArray.size_append] at hfull
      omega
  · split at h
    · cases h
    · rename_i flushed hflush
      rw [pending_of_place h, pending_of_flush hflush] at hfull
      split at hfull
      · rw [ByteArray.size_empty] at hfull
        omega
      · rw [ByteArray.empty_append] at hfull
        omega

end Device

/-! ## Files of a file system -/

/-- The bytes at a place, none if there is no file. -/
def FileSystem.contentAt (fs : FileSystem) (place : List String) : ByteArray :=
  match fs.root.at? place with
  | some (.file content) => content
  | _ => .empty

/-- Whether a file is open at its end, or is a device without room. -/
def OpenFile.Writable (fs : FileSystem) (file : OpenFile) : Prop :=
  (∃ path content, fs.FileAt path file.place content ∧ file.AtEnd content) ∨
    fs.root.at? file.place = some .fullDevice

/-- The content at the place of a file is that of the file. -/
lemma FileSystem.FileAt.contentAt {fs : FileSystem} {path : String} {place : List String}
    {content : ByteArray} (h : fs.FileAt path place content) : fs.contentAt place = content := by
  simp only [FileSystem.contentAt, h.at?]

/-- A write to an open file puts its bytes behind the content, or fails. -/
lemma OpenFile.Writable.write {fs : FileSystem} {file : OpenFile} (h : file.Writable fs)
    (bytes : ByteArray) :
    (∃ fs' file', file.write fs bytes = .ok (fs', file') ∧ file'.Writable fs' ∧
      fs'.contentAt file'.place = fs.contentAt file.place ++ bytes) ∨
    ∃ e, file.write fs bytes = .error e := by
  rcases h with ⟨path, content, hfile, hend⟩ | hfull
  · obtain ⟨fs', file', hwrite, -, hfile', hend'⟩ := OpenFile.write_of_atEnd hfile hend bytes
    refine Or.inl ⟨fs', file', hwrite, Or.inl ⟨path, _, hfile', hend'⟩, ?_⟩
    rw [hfile'.contentAt, hfile.contentAt]
  · by_cases hempty : bytes.isEmpty
    · obtain rfl : bytes = .empty := by simpa [ByteArray.isEmpty] using hempty
      exact Or.inl ⟨fs, file, by simp [OpenFile.write, hempty], Or.inr hfull,
        ByteArray.append_empty.symm⟩
    · exact Or.inr ⟨.noSpace, by simp [OpenFile.write, hempty, hfull]⟩

/-- The open files of a file system. -/
def fileDevice : Device (FileSystem × OpenFile) where
  write := fun (fs, file) bytes =>
    match file.write fs bytes with
    | .ok state => (state, none)
    | .error e => ((fs, file), some e)
  content := fun (fs, file) => fs.contentAt file.place
  IsOpen := fun (fs, file) => file.Writable fs
  isOpen_write := by
    rintro ⟨fs, file⟩ bytes h
    rcases h.write bytes with ⟨fs', file', hwrite, hopen, -⟩ | ⟨e, hwrite⟩
    · simpa only [hwrite] using hopen
    · simpa only [hwrite] using h
  content_write := by
    rintro ⟨fs, file⟩ s' bytes h hanswer
    rcases h.write bytes with ⟨fs', file', hwrite, -, hcontent⟩ | ⟨e, hwrite⟩
    · simp only [hwrite] at hanswer
      cases hanswer
      exact hcontent
    · simp only [hwrite] at hanswer
      cases hanswer
  content_failed := by
    rintro ⟨fs, file⟩ s' bytes e h hanswer
    rcases h.write bytes with ⟨fs', file', hwrite, -, -⟩ | ⟨e, hwrite⟩
    · simp only [hwrite] at hanswer
      cases hanswer
    · simp only [hwrite] at hanswer
      cases hanswer
      rfl

namespace BufferedFile

/-- A buffered file, as a buffer over a file system. -/
def buffered (fs : FileSystem) (b : BufferedFile) : Buffered (FileSystem × OpenFile) :=
  ⟨(fs, b.file), b.pending⟩

variable (fs : FileSystem) (b : BufferedFile) (piece : ByteArray)

/-- An answer about a buffered file, as one about a buffer over a file system. -/
def bufferedAnswer (answer : (FileSystem × BufferedFile) × Option OsError) :
    Buffered (FileSystem × OpenFile) × Option OsError :=
  (answer.1.2.buffered answer.1.1, answer.2)

/-- A buffered file is flushed as a device is. -/
lemma fileDevice_flush : fileDevice.flush (b.buffered fs) = bufferedAnswer (b.flush fs) := by
  unfold Device.flush BufferedFile.flush
  by_cases hempty : b.pending.isEmpty
  · have hpending : b.pending = .empty := by simpa [ByteArray.isEmpty] using hempty
    have hwrite : b.file.write fs b.pending = .ok (fs, b.file) := if_pos hempty
    rw [if_pos (by exact hempty), hwrite, bufferedAnswer, buffered, buffered, hpending]
  · cases hwrite : b.file.write fs b.pending <;>
      simp [buffered, bufferedAnswer, fileDevice, hempty, hwrite]

/-- A piece is placed in a buffered file as in a device. -/
lemma fileDevice_place :
    fileDevice.place (b.buffered fs) piece = bufferedAnswer (b.place fs piece) := by
  unfold Device.place BufferedFile.place
  split
  · cases hwrite : b.file.write fs piece <;>
      simp [buffered, bufferedAnswer, fileDevice, hwrite]
  · rfl

/-- **A buffered file writes a piece** as a buffer over the file system does. -/
lemma fileDevice_writePiece :
    fileDevice.writePiece (b.buffered fs) piece = bufferedAnswer (b.writePiece fs piece) := by
  unfold Device.writePiece BufferedFile.writePiece
  split
  · rename_i hroom
    rw [if_pos (by exact hroom), fileDevice_place]
  · rename_i hroom
    rw [if_neg (by exact hroom), fileDevice_flush]
    cases hflush : b.flush fs with
    | mk state outcome =>
      cases outcome with
      | some e => rfl
      | none => exact fileDevice_place state.1 state.2 piece

end BufferedFile

end CodeCatalog
