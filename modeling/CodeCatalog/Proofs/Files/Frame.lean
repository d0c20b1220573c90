import CodeCatalog.Proofs.Files.Writing

/-!
# What writing leaves alone

Writing a file changes nothing but that file: all other files, links and devices stay as they are,
and none comes into being. Directories above the file may be created, but none disappears.

## Main definitions

* `CodeCatalog.Entry.leafAt?` — the file, link or device at a place.
* `CodeCatalog.FileSystem.SameBut` — file systems that differ at most in one file and in new
  directories.
* `CodeCatalog.FileSystem.CanBeWritten` — a path at which any content can be stored.

## Main results

* `CodeCatalog.Entry.leafAt?_put` — what is put at a place leaves all other places alone.
* `CodeCatalog.FileSystem.sameBut_createParents` — creating directories leaves all files alone.
* `CodeCatalog.FileSystem.sameBut_of_write` — writing a file leaves all others alone.
-/

namespace CodeCatalog

/-! ## Leaves -/

namespace Entry

/-- Whether an entry is no directory. -/
def isLeaf : Entry → Bool
  | .dir _ => false
  | _ => true

/-- The file, link or device at a place; directories do not count. -/
def leafAt? (e : Entry) (place : List String) : Option Entry := (e.at? place).filter isLeaf

/-- Where nothing stands there is no leaf. -/
lemma leafAt?_of_none {e : Entry} {place : List String} (h : e.at? place = none) :
    e.leafAt? place = none := by rw [leafAt?, h, Option.filter_none]

/-- Below what is no directory there is nothing. -/
lemma at?_cons_of_isLeaf {e : Entry} (h : e.isLeaf) (name : String) (names : List String) :
    e.at? (name :: names) = none := by
  cases e with
  | dir entries => cases h
  | _ => simp [at?]

/-- A leaf in a directory stands in the entry of the first name. -/
lemma leafAt?_dir_cons (entries : List (String × Entry)) (name : String) (names : List String) :
    (dir entries).leafAt? (name :: names) = (entries.lookup name).bind (·.leafAt? names) := by
  rw [leafAt?, at?_dir_cons]
  cases entries.lookup name <;> rfl

/-- An entry below which there is nothing: a leaf, or an empty directory. -/
def IsBare (e : Entry) : Prop := ∀ name names, e.at? (name :: names) = none

/-- A leaf has nothing below it. -/
lemma isBare_of_isLeaf {e : Entry} (h : e.isLeaf) : e.IsBare := at?_cons_of_isLeaf h

/-- An empty directory has nothing below it. -/
lemma isBare_dir_nil : (dir []).IsBare := fun _ _ => rfl

/-- **What is put at a place leaves all other places alone**, unless it takes the place of a
directory or has something below it.

**Proof sketch.** Induction on the place. On the way to it, only the entry of one name in each
directory is touched; at its end nothing is below, neither before nor after. -/
lemma leafAt?_put {e : Entry} {place : List String} {new : Entry}
    (hold : ∀ old, e.at? place = some old → old.isLeaf) (hnew : new.IsBare)
    {p : List String} (hp : p ≠ place) : (e.put place new).leafAt? p = e.leafAt? p := by
  induction place generalizing e p with
  | nil =>
    obtain ⟨q, qs, rfl⟩ := List.exists_cons_of_ne_nil hp
    have he := at?_cons_of_isLeaf (hold e (at?_nil e)) q qs
    rw [put, leafAt?_of_none (hnew q qs), leafAt?_of_none he]
  | cons name names ih =>
    cases e with
    | dir entries =>
      cases p with
      | nil =>
        -- a directory stays a directory
        rw [put]
        split
        · rfl
        · split <;> rfl
      | cons q qs =>
        rw [put]
        cases hname : entries.lookup name with
        | none =>
          dsimp only
          split
          · rename_i hnames
            obtain rfl := List.isEmpty_iff.mp hnames
            rw [leafAt?_dir_cons, leafAt?_dir_cons, lookup_setName]
            split
            · rename_i hq
              obtain ⟨r, rs, rfl⟩ : ∃ r rs, qs = r :: rs :=
                List.exists_cons_of_ne_nil fun hnil => hp (by rw [hq, hnil])
              rw [hq, hname, Option.bind_some, Option.bind_none, leafAt?_of_none (hnew r rs)]
            · rfl
          · rfl
        | some inner =>
          dsimp only
          rw [leafAt?_dir_cons, leafAt?_dir_cons, lookup_setName]
          split
          · rename_i hq
            have hinner : ∀ old, inner.at? names = some old → old.isLeaf := fun old h =>
              hold old (by rw [at?_dir_cons, hname, Option.bind_some, h])
            rw [hq, hname, Option.bind_some, Option.bind_some]
            exact ih hinner fun hqs => hp (by rw [hq, hqs])
          · rfl
    | _ => rfl

end Entry

namespace FileSystem

/-! ## Changes of one file -/

/-- File systems that differ at most in the file at one place and in new directories: everything is
still there, and all other files, links and devices are the same. -/
structure SameBut (place : List String) (fs fs' : FileSystem) : Prop where
  keeps : fs.Keeps fs'
  others : ∀ p, p ≠ place → fs'.root.leafAt? p = fs.root.leafAt? p

variable {fs fs' fs'' : FileSystem} {path : String} {place : List String}

/-- Where nothing changes, everything is the same. -/
lemma SameBut.refl (place : List String) (fs : FileSystem) : fs.SameBut place fs :=
  ⟨.refl fs, fun _ _ => rfl⟩

/-- Two changes of one file are a change of this file. -/
lemma SameBut.trans (h : fs.SameBut place fs') (h' : fs'.SameBut place fs'') :
    fs.SameBut place fs'' :=
  ⟨h.keeps.trans h'.keeps, fun p hp => (h'.others p hp).trans (h.others p hp)⟩

/-- A new entry with nothing below it changes its place only. -/
lemma sameBut_put_of_none {new : Entry} (h : fs.root.at? place = none) (hnew : new.IsBare) :
    fs.SameBut place (fs.put place new) where
  keeps := keeps_put_of_none h new
  others := fun _ hp => Entry.leafAt?_put (by rw [h]; nofun) hnew hp

/-- A file is put over a file. -/
lemma FileAt.sameBut_put {content : ByteArray} (h : fs.FileAt path place content)
    (new : ByteArray) : fs.SameBut place (fs.put place (.file new)) where
  keeps := h.keeps_put new
  others := by
    intro p hp
    refine Entry.leafAt?_put (fun old hold => ?_) (Entry.isBare_of_isLeaf rfl) hp
    obtain rfl : Entry.file content = old := Option.some.inj (h.at?.symm.trans hold)
    rfl

/-! ## Directories -/

/-- Creating a directory leaves all files alone, whichever place is left out of account. -/
lemma sameBut_of_createDir (h : fs.createDir path = .ok fs') (place : List String) :
    fs.SameBut place fs' := by
  obtain ⟨directory, name, hlast, -, -, hfree, rfl⟩ := create_eq_ok h
  obtain ⟨-, ⟨entries, hdir⟩, -⟩ := lastPart_eq_ok hlast
  have hsame := sameBut_put_of_none hfree Entry.isBare_dir_nil
  refine ⟨hsame.keeps, fun p _ => ?_⟩
  by_cases hp : p = directory ++ [name]
  · have hnew : (fs.put (directory ++ [name]) (.dir [])).root.at? p = some (.dir []) := by
      rw [hp]
      exact Entry.at?_put (.concat hdir name) _
    rw [Entry.leafAt?, hnew, Entry.leafAt?_of_none (hp ▸ hfree)]
    rfl
  · exact hsame.others p hp

/-- Creating a directory that may be there leaves all files alone. -/
lemma sameBut_createMissingDir (fs : FileSystem) (path : String) (place : List String) :
    fs.SameBut place (fs.createMissingDir path).1 := by
  unfold createMissingDir
  split
  · rename_i fs' hcreate
    exact sameBut_of_createDir hcreate place
  · exact .refl place fs

/-- Creating the directories along a path leaves all files alone. -/
lemma sameBut_createDirsAlong (paths : List String) (fs : FileSystem) (place : List String) :
    fs.SameBut place (createDirsAlong paths fs).1 := by
  induction paths generalizing fs with
  | nil => exact .refl place fs
  | cons path above ih =>
    have hfirst := sameBut_createMissingDir fs path place
    unfold createDirsAlong
    split
    · exact .refl place fs
    · split
      · rename_i fs₁ hcreate
        rw [hcreate] at hfirst
        have habove := hfirst.trans (ih fs₁)
        split
        · rename_i fs₂ e habove'
          rwa [habove'] at habove
        · rename_i fs₂ habove'
          rw [habove'] at habove
          exact habove.trans (sameBut_createMissingDir fs₂ path place)
      · exact hfirst

/-- **Creating the directories above a path leaves all files alone**, whether it succeeds or not. -/
lemma sameBut_createParents (fs : FileSystem) (path : String) (place : List String) :
    fs.SameBut place (fs.createParents path).1 := by
  unfold createParents
  split
  · exact sameBut_createDirsAlong _ fs place
  · exact .refl place fs

/-! ## Files -/

/-- Opening a file from its begin leaves all others alone. -/
lemma sameBut_of_truncate (h : fs.truncate path = .ok (fs', place)) : fs.SameBut place fs' := by
  unfold truncate at h
  split at h
  · cases h
  · rename_i directory name hspot
    have hvacant := spot_of_writableSpot hspot
    cases h
    exact sameBut_put_of_none (spot_eq_ok_iff.mp hvacant).2.free.2 (Entry.isBare_of_isLeaf rfl)
  · rename_i found hspot
    obtain ⟨-, hfull | ⟨content, hfile⟩⟩ := at?_of_writableSpot hspot
    · rw [hfull] at h
      cases h
      exact .refl _ fs
    · rw [hfile.at?] at h
      cases h
      exact hfile.sameBut_put .empty

/-- **Writing a file leaves all others alone**, and the file has what was written. -/
lemma sameBut_of_write {content : ByteArray} (h : fs.write path content = .ok fs')
    (hcontent : content.isEmpty = false) :
    ∃ place, fs.SameBut place fs' ∧ fs'.FileAt path place content := by
  unfold write at h
  split at h
  · cases h
  · rename_i opened place htruncate
    obtain ⟨-, hfile | ⟨-, hfull⟩⟩ := fileAt_of_truncate htruncate
    · rw [hfile.at?] at h
      cases h
      exact ⟨place, (sameBut_of_truncate htruncate).trans (hfile.sameBut_put content),
        hfile.put content⟩
    · rw [hfull, hcontent] at h
      cases h

/-! ## Paths that can be written -/

/-- The directories above the path can be created, and then any content can be written. -/
def CanBeWritten (fs : FileSystem) (path : String) : Prop :=
  ∀ content, ∃ fs₁ fs₂, fs.createParents path = (fs₁, .ok ()) ∧ fs₁.write path content = .ok fs₂

/-- Opening a file that is not a device is enough for writing. -/
lemma write_of_truncate (h : fs.truncate path = .ok (fs', place))
    (hplace : fs'.root.at? place = some (.file .empty)) (content : ByteArray) :
    fs.write path content = .ok (fs'.put place (.file content)) := by
  simp only [write, h, hplace]

/-- A file that is there is emptied and written. -/
lemma FileAt.write {old : ByteArray} (hfile : fs.FileAt path place old) (new : ByteArray) :
    fs.write path new = .ok ((fs.put place (.file .empty)).put place (.file new)) := by
  have hopen : fs.truncate path = .ok (fs.put place (.file .empty), place) := by
    simp only [truncate, writableSpot, hfile.spot, hfile.at?]
  exact write_of_truncate hopen (hfile.put .empty).at? new

/-- A file that is there can be written. -/
lemma FileAt.canBeWritten {old : ByteArray} (hfile : fs.FileAt path place old)
    (hparents : fs.HasParents path) : fs.CanBeWritten path :=
  fun new => ⟨fs, _, createParents_of_hasParents hparents, hfile.write new⟩

/-- A new file can be written where a name is free. -/
lemma canBeWritten_of_vacant {name : String} (hspot : fs.spot true path = .ok (.vacant place name))
    (hparents : fs.HasParents path) : fs.CanBeWritten path := by
  intro new
  have hopen : fs.truncate path =
      .ok (fs.put (place ++ [name]) (.file .empty), place ++ [name]) := by
    simp only [truncate, writableSpot, hspot]
  have hfile := (fileAt_put_of_vacant hspot .empty).2
  exact ⟨fs, _, createParents_of_hasParents hparents, write_of_truncate hopen hfile.at? new⟩

end FileSystem

end CodeCatalog
