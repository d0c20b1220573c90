import Mathlib.Data.List.TakeWhile
import CodeCatalog.Files.Buffer
import CodeCatalog.Proofs.Files.Lookup

/-!
# Files that are written

A file that was opened for writing is found by its path again, now and after later changes. What
is written to it, at once or through a buffer, is its content; the directories above it, once
created, need not be created again.

## Main definitions

* `CodeCatalog.FileSystem.FileAt` — a path that leads to a file with a content.
* `CodeCatalog.FileSystem.TakesData` — a path that does not lead to a device without room.
* `CodeCatalog.FileSystem.HasParents` — a path whose directory is there.
* `CodeCatalog.BufferedFile.Holds` — what is in a file and in its buffer.

## Main results

* `CodeCatalog.FileSystem.read_of_write` — what was written is read.
* `CodeCatalog.FileSystem.createParents_of_hasParents` — nothing is created twice.
* `CodeCatalog.BufferedFile.Holds.flush`, `Holds.writePiece` — writing through a buffer.
-/

namespace CodeCatalog

namespace FileSystem

variable {fs fs' : FileSystem} {path : String} {place : List String}

/-! ## Files at paths -/

/-- A look-up by path, as a relation. -/
lemma spot_eq_ok_iff {writing : Bool} {spot : Spot} :
    fs.spot writing path = .ok spot ↔ pathFault? path = none ∧
      fs.Leads writing maxLinks (fs.start path) (Path.splitSlash path) spot := by
  unfold FileSystem.spot
  cases pathFault? path with
  | none => simp [follow_eq_ok_iff]
  | some e => simp

/-- The entry that a path leads to is at the place to which it leads. -/
lemma entry_eq_ok_iff {e : Entry} : fs.entry path = .ok e ↔ ∃ place,
    fs.spot false path = .ok (.occupied place) ∧ fs.root.at? place = some e := by
  unfold entry resolve
  cases fs.spot false path with
  | error e => simp
  | ok spot =>
    cases spot with
    | vacant directory name => simp
    | occupied place => cases hat : fs.root.at? place <;> simp [hat]

/-- A path leads to the same place after a change that keeps everything. -/
lemma Keeps.spot (hkeeps : fs.Keeps fs') {writing : Bool}
    (h : fs.spot writing path = .ok (.occupied place)) :
    fs'.spot writing path = .ok (.occupied place) := by
  rw [spot_eq_ok_iff] at h ⊢
  have hstart : fs'.start path = fs.start path := by rw [start, start, hkeeps.current]
  rw [hstart]
  exact ⟨h.1, h.2.of_keeps hkeeps⟩

/-- A path that leads to a file with a content, also for writing. -/
structure FileAt (fs : FileSystem) (path : String) (place : List String) (content : ByteArray) :
    Prop where
  spot : fs.spot true path = .ok (.occupied place)
  at? : fs.root.at? place = some (.file content)

/-- The entry at a path is what stands where it leads. -/
lemma entry_of_spot {e : Entry} (h : fs.spot true path = .ok (.occupied place))
    (he : fs.root.at? place = some e) : fs.entry path = .ok e := by
  have hspot : fs.spot false path = .ok (.occupied place) := by
    rw [spot_eq_ok_iff] at h ⊢
    exact ⟨h.1, h.2.reading⟩
  simp only [entry, resolve, hspot, he]

namespace FileAt

variable {content : ByteArray}

/-- The file that was written is the entry at its path. -/
lemma entry (h : fs.FileAt path place content) : fs.entry path = .ok (.file content) :=
  entry_of_spot h.spot h.at?

/-- The file that was written can be read. -/
lemma read (h : fs.FileAt path place content) : fs.read path = .ok content := by
  simp only [FileSystem.read, h.entry]

/-- The file that was written is there. -/
lemma exists? (h : fs.FileAt path place content) : fs.exists? path = true := by
  simp only [FileSystem.exists?, h.entry, Except.toBool]

/-- A file that is there is opened at its end as it is. -/
lemma extend (h : fs.FileAt path place content) : fs.extend path = .ok (fs, place) := by
  simp only [FileSystem.extend, writableSpot, h.spot, h.at?]

/-- A file put over a file keeps all that is there. -/
lemma keeps_put (h : fs.FileAt path place content) (new : ByteArray) :
    fs.Keeps (fs.put place (.file new)) := by
  refine FileSystem.keeps_put fun old hold => ?_
  obtain rfl : Entry.file content = old := Option.some.inj (h.at?.symm.trans hold)
  exact ⟨rfl, nofun⟩

/-- A file with a new content is where it was. -/
lemma put (h : fs.FileAt path place content) (new : ByteArray) :
    (fs.put place (.file new)).FileAt path place new where
  spot := (h.keeps_put new).spot h.spot
  at? := Entry.at?_put (Entry.hasDirectory_of_at? h.at?) _

end FileAt

/-! ## Opening and writing -/

/-- A path that does not lead to a device without room. -/
def TakesData (fs : FileSystem) (path : String) : Prop := fs.entry path ≠ .ok .fullDevice

/-- A file that is put at the free name to which a path leads is found by the path. -/
lemma fileAt_put_of_vacant {directory : List String} {name : String}
    (h : fs.spot true path = .ok (.vacant directory name)) (content : ByteArray) :
    fs.Keeps (fs.put (directory ++ [name]) (.file content)) ∧
      (fs.put (directory ++ [name]) (.file content)).FileAt path (directory ++ [name])
        content := by
  rw [spot_eq_ok_iff] at h
  obtain ⟨⟨entries, hdir⟩, hnone⟩ := h.2.free
  have hkeeps := keeps_put_of_none hnone (.file content)
  have hat : (fs.put (directory ++ [name]) (.file content)).root.at? (directory ++ [name]) =
      some (.file content) := Entry.at?_put (.concat hdir name) _
  refine ⟨hkeeps, spot_eq_ok_iff.mpr ⟨h.1, ?_⟩, hat⟩
  exact h.2.fill hkeeps hat nofun

/-- A free name to which a path leads for writing. -/
lemma spot_of_writableSpot {directory : List String} {name : String}
    (h : fs.writableSpot path = .ok (.vacant directory name)) :
    fs.spot true path = .ok (.vacant directory name) := by
  unfold writableSpot at h
  split at h
  · split at h <;> cases h
  · exact h

/-- What is at the end of a path that can be opened for writing. -/
lemma at?_of_writableSpot (h : fs.writableSpot path = .ok (.occupied place)) :
    fs.spot true path = .ok (.occupied place) ∧
      (fs.root.at? place = some .fullDevice ∨ ∃ content, fs.FileAt path place content) := by
  unfold writableSpot at h
  split at h
  · rename_i found hspot
    obtain ⟨e, he, hlink⟩ := (spot_eq_ok_iff.mp hspot).2.solid
      (Or.inl (Path.splitSlash_ne_nil path))
    rw [he] at h
    cases e with
    | dir entries => cases h
    | link target => exact absurd rfl (hlink target)
    | file content =>
      cases h
      exact ⟨hspot, Or.inr ⟨content, hspot, he⟩⟩
    | fullDevice =>
      cases h
      exact ⟨hspot, Or.inl he⟩
  · rename_i hvacant
    exact absurd h (hvacant place)

/-- A file that was opened from its begin is there and empty, unless it is a device without
room. -/
lemma fileAt_of_truncate (h : fs.truncate path = .ok (fs', place)) :
    fs.Keeps fs' ∧ (fs'.FileAt path place .empty ∨
      (fs'.spot true path = .ok (.occupied place) ∧ fs'.root.at? place = some .fullDevice)) := by
  unfold truncate at h
  split at h
  · cases h
  · rename_i directory name hspot
    cases h
    exact (fileAt_put_of_vacant (spot_of_writableSpot hspot) .empty).imp_right Or.inl
  · rename_i found hspot
    obtain ⟨hspot, hfull | ⟨content, hfile⟩⟩ := at?_of_writableSpot hspot
    · rw [hfull] at h
      cases h
      exact ⟨.refl fs, Or.inr ⟨hspot, hfull⟩⟩
    · rw [hfile.at?] at h
      cases h
      exact ⟨hfile.keeps_put .empty, Or.inl (hfile.put .empty)⟩

/-- A file that was opened at its end is there, unless it is a device without room. -/
lemma fileAt_of_extend (h : fs.extend path = .ok (fs', place)) :
    (∃ content, fs'.FileAt path place content) ∨
      (fs'.spot true path = .ok (.occupied place) ∧ fs'.root.at? place = some .fullDevice) := by
  unfold extend at h
  split at h
  · cases h
  · rename_i directory name hspot
    cases h
    exact Or.inl ⟨.empty, (fileAt_put_of_vacant (spot_of_writableSpot hspot) .empty).2⟩
  · rename_i found hspot
    cases h
    obtain ⟨hspot, hfull | hfile⟩ := at?_of_writableSpot hspot
    · exact Or.inr ⟨hspot, hfull⟩
    · exact Or.inl hfile

/-- **What was written is read.** -/
lemma read_of_write {content : ByteArray} (h : fs.write path content = .ok fs')
    (hcontent : content.isEmpty = false) : fs'.read path = .ok content := by
  unfold write at h
  split at h
  · cases h
  · rename_i opened place htruncate
    obtain ⟨-, hfile | ⟨-, hfull⟩⟩ := fileAt_of_truncate htruncate
    · rw [hfile.at?] at h
      cases h
      exact (hfile.put content).read
    · rw [hfull, hcontent] at h
      cases h

/-! ## Directories above a path -/

/-- A path leads to a directory if one stands where it leads. -/
lemma isDir_iff : fs.isDir path = true ↔ ∃ place entries,
    fs.spot false path = .ok (.occupied place) ∧ fs.root.at? place = some (.dir entries) := by
  constructor
  · intro h
    unfold isDir at h
    split at h
    · rename_i entries hentry
      obtain ⟨place, hspot, hat⟩ := entry_eq_ok_iff.mp hentry
      exact ⟨place, entries, hspot, hat⟩
    · cases h
  · rintro ⟨place, entries, hspot, hat⟩
    simp only [isDir, entry_eq_ok_iff.mpr ⟨place, hspot, hat⟩]

/-- A directory that is kept is found by the same path. -/
lemma Keeps.isDir (hkeeps : fs.Keeps fs') (h : fs.isDir path = true) : fs'.isDir path = true := by
  obtain ⟨place, entries, hspot, hdir⟩ := isDir_iff.mp h
  obtain ⟨entries', hdir'⟩ := hkeeps.dir hdir
  exact isDir_iff.mpr ⟨place, entries', hkeeps.spot hspot, hdir'⟩

/-- The parts of a path: those above the last one, the last one, and empty ones behind it. -/
lemma splitSlash_eq_of_dropWhile {name : String} {before : List String}
    (h : (Path.splitSlash path).reverse.dropWhile (· == "") = name :: before) :
    name ≠ "" ∧ ∃ blanks : List String, (∀ part ∈ blanks, part = "") ∧
      Path.splitSlash path = before.reverse ++ name :: blanks := by
  have hname := List.head?_dropWhile_not (· == "") (Path.splitSlash path).reverse
  rw [h] at hname
  refine ⟨by simpa using hname,
    ((Path.splitSlash path).reverse.takeWhile (· == "")).reverse, ?_, ?_⟩
  · intro part hpart
    simpa using List.mem_takeWhile_imp (List.mem_reverse.mp hpart)
  · have hsplit := List.takeWhile_append_dropWhile (p := (· == ""))
      (l := (Path.splitSlash path).reverse)
    rw [h] at hsplit
    have hreverse := congrArg List.reverse hsplit
    simpa using hreverse.symm

/-- Empty parts behind a directory lead nowhere else. -/
lemma follow_blanks {links : Nat} {entries : List (String × Entry)} {blanks : List String}
    (hdir : fs.root.at? place = some (.dir entries)) (hblanks : ∀ part ∈ blanks, part = "") :
    fs.follow false links place blanks = .ok (.occupied place) := by
  induction blanks with
  | nil => exact follow_nil links place
  | cons part blanks ih =>
    rw [follow_stay hdir (Or.inl (hblanks part List.mem_cons_self))]
    exact ih fun part hpart => hblanks part (List.mem_cons_of_mem _ hpart)

/-- The last part of a path stands behind parts that lead to a directory. -/
lemma lastPart_eq_ok {directory : List String} {name : String}
    (h : fs.lastPart path = .ok (directory, name)) :
    pathFault? path = none ∧ (∃ entries, fs.root.at? directory = some (.dir entries)) ∧
      name ≠ "" ∧ ∃ before blanks : List String, (∀ part ∈ blanks, part = "") ∧
        Path.splitSlash path = before ++ name :: blanks ∧
        fs.Leads false maxLinks (fs.start path) before (.occupied directory) := by
  unfold lastPart at h
  split at h
  · cases h
  · cases h
  · rename_i last before hfault hparts
    obtain ⟨hne, blanks, hblanks, hsplit⟩ := splitSlash_eq_of_dropWhile hparts
    split at h
    · cases h
    · cases h
    · rename_i found hfollow
      split at h
      · rename_i entries hdir
        cases h
        exact ⟨hfault, ⟨entries, hdir⟩, hne, before.reverse, blanks, hblanks, hsplit,
          leads_of_follow hfollow⟩
      · cases h
      · cases h

/-- Where a path leads, from the directory of its last part on. -/
lemma spot_eq_follow {before more : List String} {directory : List String}
    (hfault : pathFault? path = none) (hsplit : Path.splitSlash path = before ++ more)
    (hleads : fs.Leads false maxLinks (fs.start path) before (.occupied directory)) :
    ∃ links, fs.spot false path = fs.follow false links directory more := by
  obtain ⟨links, hfollow⟩ := hleads.follow_append more
  exact ⟨links, by rw [spot, hfault, hsplit, ← hfollow]⟩

/-- When a new entry is created: what is above it is there, and its name is free. -/
lemma create_eq_ok {new : Entry} (h : fs.create path new = .ok fs') :
    ∃ directory name, fs.lastPart path = .ok (directory, name) ∧ ¬ (name = "." ∨ name = "..") ∧
      ¬ name.utf8ByteSize > maxName ∧ fs.root.at? (directory ++ [name]) = none ∧
      fs' = fs.put (directory ++ [name]) new := by
  unfold create at h
  split at h
  · cases h
  · rename_i directory name hlast
    split at h
    · cases h
    · rename_i hdots
      split at h
      · cases h
      · rename_i hshort
        split at h
        · cases h
        · rename_i hfree
          cases h
          exact ⟨directory, name, hlast, hdots, hshort, by simpa using hfree, rfl⟩

/-- A directory that was created is there. -/
lemma isDir_of_createDir (h : fs.createDir path = .ok fs') : fs'.isDir path = true := by
  obtain ⟨directory, name, hlast, hdots, hshort, hfree, rfl⟩ := create_eq_ok h
  obtain ⟨hfault, ⟨entries, hdir⟩, hne, before, blanks, hblanks, hsplit, hleads⟩ :=
    lastPart_eq_ok hlast
  obtain ⟨hdot, hdots⟩ := not_or.mp hdots
  have hkeeps := keeps_put_of_none hfree (.dir [])
  have hnew : (fs.put (directory ++ [name]) (.dir [])).root.at? (directory ++ [name]) =
      some (.dir []) := Entry.at?_put (.concat hdir name) _
  obtain ⟨entries', hdir'⟩ := hkeeps.dir hdir
  obtain ⟨links, hspot⟩ := spot_eq_follow hfault hsplit (hleads.of_keeps hkeeps)
  rw [follow_enter hdir' ⟨by simp [hne, hdot], hdots, rfl, hshort⟩ hnew nofun,
    follow_blanks hnew hblanks] at hspot
  exact isDir_iff.mpr ⟨_, _, hspot, hnew⟩

/-- No directory is created where one is. -/
lemma createDir_of_isDir (h : fs.isDir path = true) : ∃ e, fs.createDir path = .error e := by
  cases hcreate : fs.createDir path with
  | error e => exact ⟨e, rfl⟩
  | ok fs' =>
    obtain ⟨directory, name, hlast, hdots, -, hfree, -⟩ := create_eq_ok hcreate
    obtain ⟨hfault, -, hne, before, blanks, -, hsplit, hleads⟩ := lastPart_eq_ok hlast
    obtain ⟨hdot, hdots⟩ := not_or.mp hdots
    obtain ⟨links, hspot⟩ := spot_eq_follow hfault hsplit hleads
    obtain ⟨found, -, hfound, -⟩ := isDir_iff.mp h
    rw [hspot, follow_eq_ok_iff] at hfound
    -- The name is free, so the path cannot lead to something.
    cases hfound with
    | stay _ hpart _ => exact absurd hpart (by simp [hne, hdot])
    | up => exact absurd rfl hdots
    | link _ _ hlink _ => simp [hfree] at hlink
    | enter _ _ he _ _ => simp [hfree] at he

/-- A path whose directory is there, or that needs none. -/
def HasParents (fs : FileSystem) (path : String) : Prop :=
  ∀ parent ∈ Path.parent? path, parent = "" ∨ fs.isDir parent = true

/-- A directory that was created, or was there already, is there. -/
lemma isDir_of_createMissingDir (h : fs.createMissingDir path = (fs', .ok ())) :
    fs'.isDir path = true := by
  unfold createMissingDir at h
  split at h
  · rename_i created hcreate
    cases h
    exact isDir_of_createDir hcreate
  · split at h
    · rename_i hdir
      cases h
      exact hdir
    · cases h

/-- The last of several directories that were created is there. -/
lemma isDir_of_createDirsAlong {above : List String}
    (h : createDirsAlong (path :: above) fs = (fs', .ok ())) :
    path = "" ∨ fs'.isDir path = true := by
  unfold createDirsAlong at h
  split at h
  · rename_i hempty
    exact Or.inl (String.isEmpty_iff.mp hempty)
  · right
    split at h
    · split at h
      · cases h
      · exact isDir_of_createMissingDir h
    · exact isDir_of_createMissingDir h

/-- **The directories above a path are there once they have been created.** -/
lemma hasParents_of_createParents (h : fs.createParents path = (fs', .ok ())) :
    fs'.HasParents path := by
  intro parent hparent
  rw [createParents, Option.mem_def.mp hparent] at h
  exact isDir_of_createDirsAlong h

/-- **Nothing is created twice.** -/
lemma createParents_of_hasParents (h : fs.HasParents path) :
    fs.createParents path = (fs, .ok ()) := by
  unfold createParents
  split
  · rename_i parent hparent
    unfold createDirs createDirsAlong
    rcases h parent hparent with rfl | hdir
    · rfl
    · split
      · rfl
      · obtain ⟨e, he⟩ := createDir_of_isDir hdir
        simp [createMissingDir, he, hdir]
  · rfl

/-- The directories above a path are kept. -/
lemma HasParents.of_keeps (h : fs.HasParents path) (hkeeps : fs.Keeps fs') :
    fs'.HasParents path :=
  fun parent hparent => (h parent hparent).imp_right hkeeps.isDir

end FileSystem

/-! ## Buffers -/

/-- Whether what is written next comes behind a content. -/
def OpenFile.AtEnd (file : OpenFile) (content : ByteArray) : Prop :=
  file.appending = true ∨ file.offset = content.size

/-- Writing at the end of a file puts the bytes behind its content. -/
lemma OpenFile.write_of_atEnd {fs : FileSystem} {path : String} {file : OpenFile}
    {content : ByteArray} (hfile : fs.FileAt path file.place content) (hend : file.AtEnd content)
    (bytes : ByteArray) :
    ∃ fs' file', file.write fs bytes = .ok (fs', file') ∧ fs.Keeps fs' ∧
      fs'.FileAt path file'.place (content ++ bytes) ∧ file'.AtEnd (content ++ bytes) := by
  unfold write
  split
  · rename_i hempty
    obtain rfl : bytes = .empty := by simpa [ByteArray.isEmpty] using hempty
    rw [ByteArray.append_empty]
    exact ⟨fs, file, rfl, .refl fs, hfile, hend⟩
  · have hoffset : (if file.appending = true then content.size else file.offset) =
        content.size := by
      rcases hend with happending | hoffset
      · rw [if_pos happending]
      · rw [hoffset, ite_self]
    simp only [hfile.at?, hoffset, if_true]
    refine ⟨_, _, rfl, hfile.keeps_put _, hfile.put _, Or.inr ?_⟩
    rw [ByteArray.size_append]

namespace BufferedFile

/-- What is in the file to which a path leads, and behind it in the buffer. -/
structure Holds (fs : FileSystem) (b : BufferedFile) (path : String) (content : ByteArray) :
    Prop where
  exists_written : ∃ written, fs.FileAt path b.file.place written ∧ b.file.AtEnd written ∧
    written ++ b.pending = content

variable {fs : FileSystem} {b : BufferedFile} {path : String} {content : ByteArray}

/-- **Flushing** writes the buffer and does not fail. -/
lemma Holds.flush (h : b.Holds fs path content) :
    ∃ fs' b', b.flush fs = ((fs', b'), none) ∧ fs.Keeps fs' ∧ b'.Holds fs' path content ∧
      b'.pending = .empty := by
  obtain ⟨written, hfile, hend, rfl⟩ := h.exists_written
  obtain ⟨fs', file', hwrite, hkeeps, hfile', hend'⟩ :=
    OpenFile.write_of_atEnd hfile hend b.pending
  refine ⟨fs', ⟨file', .empty⟩, by rw [BufferedFile.flush, hwrite], hkeeps, ⟨_, hfile', hend', ?_⟩,
    rfl⟩
  rw [ByteArray.append_empty]

/-- What is in a file whose buffer is empty. -/
lemma Holds.fileAt (h : b.Holds fs path content) (hpending : b.pending = .empty) :
    fs.FileAt path b.file.place content := by
  obtain ⟨written, hfile, -, rfl⟩ := h.exists_written
  rwa [hpending, ByteArray.append_empty]

/-- Placing a piece in a buffer puts it behind what the file and the buffer hold. -/
lemma Holds.place (h : b.Holds fs path content) (piece : ByteArray)
    (hpending : piece.size ≥ capacity → b.pending = .empty) :
    ∃ fs' b', b.place fs piece = ((fs', b'), none) ∧ fs.Keeps fs' ∧
      b'.Holds fs' path (content ++ piece) := by
  obtain ⟨written, hfile, hend, rfl⟩ := h.exists_written
  unfold BufferedFile.place
  split
  · rename_i hlarge
    obtain ⟨fs', file', hwrite, hkeeps, hfile', hend'⟩ := OpenFile.write_of_atEnd hfile hend piece
    rw [hwrite]
    refine ⟨_, _, rfl, hkeeps, ⟨_, hfile', hend', ?_⟩⟩
    simp only [hpending hlarge, ByteArray.append_empty]
  · exact ⟨_, _, rfl, .refl fs, ⟨written, hfile, hend, ByteArray.append_assoc.symm⟩⟩

/-- **Writing through the buffer** puts a piece behind what is there and does not fail. -/
lemma Holds.writePiece (h : b.Holds fs path content) (piece : ByteArray) :
    ∃ fs' b', b.writePiece fs piece = ((fs', b'), none) ∧ fs.Keeps fs' ∧
      b'.Holds fs' path (content ++ piece) := by
  unfold BufferedFile.writePiece
  split
  · rename_i hroom
    refine h.place piece fun hlarge => ByteArray.size_eq_zero_iff.mp ?_
    have : capacity = 8192 := rfl
    omega
  · obtain ⟨fs₁, b₁, hflush, hkeeps, hholds, hpending⟩ := h.flush
    obtain ⟨fs₂, b₂, hplace, hkeeps', hholds'⟩ := hholds.place piece fun _ => hpending
    rw [hflush]
    exact ⟨fs₂, b₂, hplace, hkeeps.trans hkeeps', hholds'⟩

end BufferedFile

end CodeCatalog
