import Mathlib.Data.List.Sort
import Mathlib.Data.Set.List
import CodeCatalog.Discovery.Walk
import CodeCatalog.Proofs.Files.Paths
import CodeCatalog.Proofs.Files.Writing
import CodeCatalog.Proofs.Text.Bytes

/-!
# What a walk yields

A walk that follows no links and minds no ignore rules meets no faults. It yields every file
below its root, and every link that leads to one, once and in the order of the names on the way.
So the order in which directories list their entries cannot be seen in its answer.

## Main definitions

* `CodeCatalog.Entry.Proper` — trees in which every directory has different names.
* `CodeCatalog.Entry.FileBelow` — the paths of the files in a tree.
* `CodeCatalog.FileSystem.SameTree` — file systems that differ only in the order in which
  directories list their entries.

## Main results

* `CodeCatalog.Found.mem_files_lookAt_iff` — what a walk yields.
* `CodeCatalog.Found.pairwise_files_lookAt` — the order in which it does.
* `CodeCatalog.discover_eq_sortedFiles` — the source files below a directory.
-/

namespace CodeCatalog

namespace Entry

/-! ## Trees with different names -/

/-- Trees in which every directory gives different names to its entries. -/
inductive Proper : Entry → Prop
  | file (content : ByteArray) : Proper (.file content)
  | link (target : String) : Proper (.link target)
  | fullDevice : Proper .fullDevice
  | dir {entries : List (String × Entry)} (names : ∀ entry ∈ entries, Path.IsFileName entry.1)
      (distinct : (entries.map (·.1)).Nodup) (inside : ∀ entry ∈ entries, Proper entry.2) :
      Proper (.dir entries)

/-- The order in which a directory lists its names does not matter. -/
lemma Proper.of_perm {entries entries' : List (String × Entry)} (hproper : Proper (.dir entries))
    (h : entries.Perm entries') : Proper (.dir entries') := by
  cases hproper with
  | dir names distinct inside =>
    exact .dir (fun entry hentry => names entry (h.mem_iff.mpr hentry))
      ((h.map _).nodup_iff.mp distinct) (fun entry hentry => inside entry (h.mem_iff.mpr hentry))

/-- What is looked up is one of the entries. -/
lemma mem_of_lookup_eq_some {entries : List (String × Entry)} {name : String} {e : Entry}
    (h : entries.lookup name = some e) : (name, e) ∈ entries := by
  obtain ⟨before, after, rfl, -⟩ := List.lookup_eq_some_iff.mp h
  exact List.mem_append_right before List.mem_cons_self

/-- Where names are different, every entry is found by its name. -/
lemma lookup_eq_some_iff_mem {entries : List (String × Entry)}
    (h : (entries.map (·.1)).Nodup) {name : String} {e : Entry} :
    entries.lookup name = some e ↔ (name, e) ∈ entries := by
  refine ⟨mem_of_lookup_eq_some, fun hmem => ?_⟩
  obtain ⟨before, after, rfl⟩ := List.append_of_mem hmem
  refine List.lookup_eq_some_iff.mpr ⟨before, after, rfl, fun entry hentry => ?_⟩
  rw [List.map_append, List.map_cons, List.nodup_append] at h
  rw [bne_iff_ne]
  exact (h.2.2 entry.1 (List.mem_map_of_mem hentry) name List.mem_cons_self).symm

/-- What is in such a tree, and by which names it is reached. -/
lemma Proper.at? {e : Entry} (h : e.Proper) {names : List String} {found : Entry}
    (hat : e.at? names = some found) :
    (∀ name ∈ names, Path.IsFileName name) ∧ found.Proper := by
  induction names generalizing e with
  | nil =>
    obtain rfl : e = found := by simpa using hat
    exact ⟨List.forall_mem_nil _, h⟩
  | cons name names ih =>
    obtain ⟨entries, inner, rfl, hlookup, hinner⟩ := exists_dir_of_at?_cons hat
    cases h with
    | dir hnames _ hinside =>
      have hmem := mem_of_lookup_eq_some hlookup
      obtain ⟨hrest, hfound⟩ := ih (hinside _ hmem) hinner
      exact ⟨List.forall_mem_cons.mpr ⟨hnames _ hmem, hrest⟩, hfound⟩

/-! ## Files in trees -/

/-- An entry without what is inside. -/
def alone : Entry → Entry
  | .dir _ => .dir []
  | e => e

/-- An entry without what is inside has the same shape. -/
lemma shape_alone (e : Entry) : e.alone.shape = e.shape := by
  cases e <;> rfl

/-- An entry that is a file without what is inside is that file. -/
lemma eq_file_of_alone {e : Entry} {content : ByteArray} (h : e.alone = .file content) :
    e = .file content := by
  cases e with
  | dir entries => cases h
  | _ => exact h

/-- Whether an entry at a path is a file, or a link that leads to one. -/
def leadsToFile (fs : FileSystem) (path : String) : Entry → Bool
  | .file _ => true
  | .link _ => fs.isFile path
  | _ => false

/-- What is inside a directory does not matter for what it leads to. -/
lemma leadsToFile_alone (fs : FileSystem) (path : String) (e : Entry) :
    e.alone.leadsToFile fs path = e.leadsToFile fs path := by
  cases e <;> rfl

/-- Whether a path leads from the path of an entry down to a file in it, or to a link that leads
to a file. -/
def FileBelow (fs : FileSystem) (e : Entry) (root path : String) : Prop :=
  ∃ names found, e.at? names = some found ∧ path = Path.below root names ∧
    found.leadsToFile fs path = true

variable {fs : FileSystem} {root path : String}

/-- At what is no directory, the only file below the root can be itself. -/
lemma fileBelow_iff_of_ne_dir {e : Entry} (h : ∀ entries, e ≠ .dir entries) :
    e.FileBelow fs root path ↔ path = root ∧ e.leadsToFile fs root = true := by
  constructor
  · rintro ⟨names, found, hat, rfl, hfile⟩
    cases names with
    | nil =>
      obtain rfl : e = found := by simpa using hat
      exact ⟨rfl, hfile⟩
    | cons name names =>
      obtain ⟨entries, -, rfl, -⟩ := exists_dir_of_at?_cons hat
      exact absurd rfl (h entries)
  · rintro ⟨rfl, hfile⟩
    exact ⟨[], e, at?_nil e, rfl, hfile⟩

/-- The files in a directory are those in its entries. -/
lemma fileBelow_dir_iff {entries : List (String × Entry)} (h : (entries.map (·.1)).Nodup) :
    (dir entries).FileBelow fs root path ↔
      ∃ entry ∈ entries, entry.2.FileBelow fs (Path.join root entry.1) path := by
  constructor
  · rintro ⟨names, found, hat, hpath, hfile⟩
    cases names with
    | nil =>
      obtain rfl : dir entries = found := by simpa using hat
      cases hfile
    | cons name names =>
      rw [at?_dir_cons, Option.bind_eq_some_iff] at hat
      obtain ⟨inner, hlookup, hinner⟩ := hat
      exact ⟨(name, inner), mem_of_lookup_eq_some hlookup, names, found, hinner, hpath, hfile⟩
  · rintro ⟨⟨name, inner⟩, hmem, names, found, hinner, hpath, hfile⟩
    refine ⟨name :: names, found, ?_, hpath, hfile⟩
    rw [at?_dir_cons, (lookup_eq_some_iff_mem h).mpr hmem, Option.bind_some, hinner]

/-- The path of a file in an entry goes on from the path of the entry. -/
lemma FileBelow.components {e : Entry} (h : e.FileBelow fs root path) (hproper : e.Proper) :
    ∃ names, Path.components path = Path.components root ++ names := by
  obtain ⟨names, found, hat, rfl, -⟩ := h
  exact ⟨names, Path.components_below root (hproper.at? hat).1⟩

end Entry

/-! ## The walk -/

namespace Found

/-- The files of trees are those of one tree after the other. -/
lemma filesOf_eq_flatMap (found : List Found) : filesOf found = found.flatMap files := by
  induction found with
  | nil => rfl
  | cons f found ih => rw [filesOf, ih, List.flatMap_cons]

/-- Looking inside a directory is looking at each of its entries. -/
lemma lookInside_eq_map (jump : Trail → String → Found) (trail : Trail) (path : String)
    (place : List String) (entries : List (String × Entry)) :
    lookInside jump trail path place entries =
      entries.map fun entry =>
        (entry.1, lookAt jump trail (Path.join path entry.1) (place ++ [entry.1]) entry.2) := by
  induction entries with
  | nil => rfl
  | cons entry entries ih => rw [lookInside, ih, List.map_cons]

/-- What is found in a directory, in the order of names, is what is found at its entries. -/
lemma mem_sorted_lookInside {jump : Trail → String → Found} {trail : Trail} {path : String}
    {place : List String} {entries : List (String × Entry)} {named : String × Found} :
    named ∈ (lookInside jump trail path place entries).mergeSort nameLe ↔
      ∃ entry ∈ entries, named =
        (entry.1, lookAt jump trail (Path.join path entry.1) (place ++ [entry.1]) entry.2) := by
  rw [List.mem_mergeSort, lookInside_eq_map, List.mem_map]
  simp only [eq_comm]

/-- **What a walk yields**: no faults, and the files in the tree.

**Proof sketch.** Induction on the tree. The order of names does not matter here, so a directory
yields what its entries yield. -/
lemma mem_files_lookAt_iff (fs : FileSystem) {e : Entry} (h : e.Proper) (trail : Trail)
    (path : String) (place : List String) (answer : Except WalkFault String) :
    answer ∈ (lookAt (stay fs) trail path place e).files ↔
      ∃ p, answer = .ok p ∧ e.FileBelow fs path p := by
  induction h generalizing trail path place with
  | file content =>
    simp [lookAt, files, Entry.fileBelow_iff_of_ne_dir, Entry.leadsToFile]
  | link target =>
    simp [lookAt, stay, files, Entry.fileBelow_iff_of_ne_dir, Entry.leadsToFile, and_comm]
  | fullDevice =>
    simp [lookAt, files, Entry.fileBelow_iff_of_ne_dir, Entry.leadsToFile]
  | dir names distinct inside ih =>
    rw [lookAt, files, filesOf_eq_flatMap, List.mem_flatMap]
    constructor
    · rintro ⟨f, hf, hanswer⟩
      obtain ⟨named, hnamed, rfl⟩ := List.mem_map.mp hf
      obtain ⟨entry, hentry, rfl⟩ := mem_sorted_lookInside.mp hnamed
      obtain ⟨p, hp, hfile⟩ := (ih entry hentry _ _ _).mp hanswer
      exact ⟨p, hp, (Entry.fileBelow_dir_iff distinct).mpr ⟨entry, hentry, hfile⟩⟩
    · rintro ⟨p, hp, hfile⟩
      obtain ⟨entry, hentry, hfile⟩ := (Entry.fileBelow_dir_iff distinct).mp hfile
      exact ⟨_, List.mem_map_of_mem (mem_sorted_lookInside.mpr ⟨entry, hentry, rfl⟩),
        (ih entry hentry _ _ _).mpr ⟨p, hp, hfile⟩⟩

/-! ## The order of the walk -/

/-- Different names are in order after sorting. -/
lemma pairwise_mergeSort_nameLe {entries : List (String × Found)}
    (h : (entries.map (·.1)).Nodup) : (entries.mergeSort nameLe).Pairwise (·.1 < ·.1) := by
  have hle : (entries.mergeSort nameLe).Pairwise fun a b => nameLe a b = true :=
    List.pairwise_mergeSort (fun a b c hab hbc => by
        simp only [nameLe, decide_eq_true_eq] at hab hbc ⊢
        exact String.le_trans hab hbc)
      (fun a b => by
        simp only [nameLe, Bool.or_eq_true, decide_eq_true_eq]
        exact String.le_total a.1 b.1) entries
  have hne : (entries.mergeSort nameLe).Pairwise (·.1 ≠ ·.1) := by
    rw [← List.pairwise_map]
    exact ((List.mergeSort_perm entries nameLe).map _).nodup_iff.mpr h
  refine (hle.and hne).imp fun hab => ?_
  simp only [nameLe, decide_eq_true_eq] at hab
  exact String.not_le.mp fun hba => hab.2 (String.le_antisymm hab.1 hba)

/-- The order of answers: paths are compared by their components. -/
def Before (a b : Except WalkFault String) : Prop :=
  ∀ p q, a = .ok p → b = .ok q → Path.Precedes p q

/-- **The answers of a walk are in the order of the names on the way.**

**Proof sketch.** Induction on the tree. Two files in one entry of a directory are in order there;
two files in different entries are in the order of the names of these, for up to there their
paths are the same. -/
lemma pairwise_files_lookAt (fs : FileSystem) {e : Entry} (h : e.Proper) (trail : Trail)
    (path : String) (place : List String) :
    (lookAt (stay fs) trail path place e).files.Pairwise Before := by
  induction h generalizing trail path place with
  | file content => exact List.pairwise_singleton _ _
  | link target =>
    rw [lookAt, stay, files]
    split
    · exact List.pairwise_singleton _ _
    · exact .nil
  | fullDevice => exact .nil
  | @dir entries names distinct inside ih =>
    rw [lookAt, files, filesOf_eq_flatMap, List.pairwise_flatMap]
    have hdistinct : ((lookInside (stay fs) ((path, place) :: trail) path place entries).map
        (·.1)).Nodup := by
      rw [lookInside_eq_map, List.map_map]
      exact distinct
    constructor
    · intro f hf
      obtain ⟨named, hnamed, rfl⟩ := List.mem_map.mp hf
      obtain ⟨entry, hentry, rfl⟩ := mem_sorted_lookInside.mp hnamed
      exact ih entry hentry _ _ _
    · rw [List.pairwise_map]
      refine (pairwise_mergeSort_nameLe hdistinct).imp_of_mem ?_
      intro a b ha hb hlt x hx y hy p q hp hq
      obtain ⟨entry, hentry, rfl⟩ := mem_sorted_lookInside.mp ha
      obtain ⟨entry', hentry', rfl⟩ := mem_sorted_lookInside.mp hb
      obtain ⟨p, rfl, hfile⟩ := (mem_files_lookAt_iff fs (inside _ hentry) _ _ _ _).mp hx
      obtain ⟨q, rfl, hfile'⟩ := (mem_files_lookAt_iff fs (inside _ hentry') _ _ _ _).mp hy
      cases hp
      cases hq
      obtain ⟨back, hback⟩ := hfile.components (inside _ hentry)
      obtain ⟨back', hback'⟩ := hfile'.components (inside _ hentry')
      rw [Path.components_join path (names _ hentry), List.append_assoc] at hback
      rw [Path.components_join path (names _ hentry'), List.append_assoc] at hback'
      exact Path.precedes_of_components hback hback' hlt

end Found

/-! ## Files below a path -/

namespace FileSystem

variable {fs fs' : FileSystem} {root path : String}

/-- Whether a path leads from a root down to a file, or to a link that leads to a file. -/
def HasFileBelow (fs : FileSystem) (root path : String) : Prop :=
  ∃ place names found, fs.resolve root = .ok place ∧ fs.root.at? (place ++ names) = some found ∧
    path = Path.below root names ∧ found.leadsToFile fs path = true

/-- The place of an entry is where its path leads. -/
lemma resolve_eq_ok_iff {place : List String} :
    fs.resolve path = .ok place ↔ fs.spot false path = .ok (.occupied place) := by
  rw [resolve]
  split <;> simp_all

/-- The files below a root are those below the entry that stands there. -/
lemma hasFileBelow_iff {place : List String} {e : Entry} (hplace : fs.resolve root = .ok place)
    (he : fs.root.at? place = some e) :
    fs.HasFileBelow root path ↔ e.FileBelow fs root path := by
  constructor
  · rintro ⟨place', names, found, hplace', hat, hpath, hfile⟩
    obtain rfl : place = place' := Except.ok.inj (hplace.symm.trans hplace')
    rw [Entry.at?_append, he, Option.bind_some] at hat
    exact ⟨names, found, hat, hpath, hfile⟩
  · rintro ⟨names, found, hat, hpath, hfile⟩
    refine ⟨place, names, found, hplace, ?_, hpath, hfile⟩
    rw [Entry.at?_append, he, Option.bind_some, hat]

/-- A path leads to a file if a file stands there. -/
lemma isFile_iff : fs.isFile path = true ↔ ∃ content, fs.entry path = .ok (.file content) := by
  rw [isFile]
  split <;> simp_all

/-- A directory that is there is there. -/
lemma exists?_of_isDir (h : fs.isDir path = true) : fs.exists? path = true := by
  rw [isDir] at h
  split at h
  · rename_i entries hentry
    rw [exists?, hentry]
    rfl
  · cases h

/-! ## The order in which directories list their entries -/

/-- Two file systems that differ only in the order in which directories list their entries. -/
structure SameTree (fs fs' : FileSystem) : Prop where
  current : fs'.current = fs.current
  entries : ∀ place, (fs'.root.at? place).map Entry.alone = (fs.root.at? place).map Entry.alone

/-- A directory that lists its entries in another order is the same tree. -/
lemma sameTree_of_perm {entries entries' : List (String × Entry)} (h : entries.Perm entries')
    (hdistinct : (entries.map (·.1)).Nodup) (current : List String) :
    SameTree ⟨.dir entries, current⟩ ⟨.dir entries', current⟩ where
  current := rfl
  entries := by
    have hdistinct' : (entries'.map (·.1)).Nodup := (h.map _).nodup_iff.mp hdistinct
    intro place
    cases place with
    | nil => rfl
    | cons name names =>
      have hlookup : entries'.lookup name = entries.lookup name := by
        ext e
        rw [Entry.lookup_eq_some_iff_mem hdistinct', Entry.lookup_eq_some_iff_mem hdistinct,
          h.mem_iff]
      rw [Entry.at?_dir_cons, Entry.at?_dir_cons, hlookup]

/-- Having the same tree goes both ways. -/
lemma SameTree.symm (h : fs.SameTree fs') : fs'.SameTree fs :=
  ⟨h.current.symm, fun place => (h.entries place).symm⟩

/-- In the same tree, the same stands at every place, apart from what is inside. -/
lemma SameTree.at? (h : fs.SameTree fs') {place : List String} {e : Entry}
    (he : fs.root.at? place = some e) :
    ∃ e', fs'.root.at? place = some e' ∧ e'.alone = e.alone := by
  have hentries := h.entries place
  rwa [he, Option.map_some, Option.map_eq_some_iff] at hentries

/-- The same tree keeps all that is there. -/
lemma SameTree.keeps (h : fs.SameTree fs') : fs.Keeps fs' where
  current := h.current
  shape := by
    intro place e he
    obtain ⟨e', he', halone⟩ := h.at? he
    exact ⟨e', he', by rw [← Entry.shape_alone, halone, Entry.shape_alone]⟩

/-- In the same tree, the same paths lead to files. -/
lemma SameTree.isFile (h : fs.SameTree fs') (hfile : fs.isFile path = true) :
    fs'.isFile path = true := by
  rw [isFile_iff] at hfile ⊢
  obtain ⟨content, hentry⟩ := hfile
  obtain ⟨place, hspot, hat⟩ := entry_eq_ok_iff.mp hentry
  obtain ⟨e', he', halone⟩ := h.at? hat
  obtain rfl := Entry.eq_file_of_alone halone
  exact ⟨content, entry_eq_ok_iff.mpr ⟨place, h.keeps.spot hspot, he'⟩⟩

/-- In the same tree, the same entries lead to files. -/
lemma SameTree.leadsToFile (h : fs.SameTree fs') {e e' : Entry} (halone : e'.alone = e.alone)
    (hleads : e.leadsToFile fs path = true) : e'.leadsToFile fs' path = true := by
  rw [← Entry.leadsToFile_alone, halone, Entry.leadsToFile_alone]
  cases e with
  | link target => exact h.isFile hleads
  | _ => exact hleads

/-- The files below a root are the same, however directories list their entries. -/
lemma SameTree.hasFileBelow (h : fs.SameTree fs') (hfile : fs.HasFileBelow root path) :
    fs'.HasFileBelow root path := by
  obtain ⟨place, names, found, hplace, hat, hpath, hleads⟩ := hfile
  obtain ⟨found', hat', halone⟩ := h.at? hat
  refine ⟨place, names, found', ?_, hat', hpath, h.leadsToFile halone hleads⟩
  rw [resolve_eq_ok_iff] at hplace ⊢
  exact h.keeps.spot hplace

end FileSystem

/-! ## Source files -/

section Discover

variable {fs : FileSystem} {options : DiscoveryOptions} {root : String}

/-- What a walk from a directory finds. -/
lemma exists_files_look (hproper : fs.root.Proper) (hroot : fs.isDir root = true) :
    ∃ paths : List String, (Found.look fs false root).files = paths.map .ok ∧
      (∀ path, path ∈ paths ↔ fs.HasFileBelow root path) ∧
      paths.Pairwise Path.Precedes := by
  obtain ⟨place, entries, hspot, hdir⟩ := FileSystem.isDir_iff.mp hroot
  have hplace := FileSystem.resolve_eq_ok_iff.mpr hspot
  have hlook : Found.look fs false root =
      Found.lookAt (Found.stay fs) [] root place (.dir entries) := by
    simp only [Found.look, hplace, hdir]
    rfl
  have hmem := Found.mem_files_lookAt_iff fs (hproper.at? hdir).2 [] root place
  have hsorted := Found.pairwise_files_lookAt fs (hproper.at? hdir).2 [] root place
  rw [← hlook] at hmem hsorted
  obtain ⟨paths, hpaths⟩ : (Found.look fs false root).files ∈ Set.range (List.map .ok) := by
    rw [Set.range_list_map]
    intro answer hanswer
    obtain ⟨path, rfl, -⟩ := (hmem answer).mp hanswer
    exact Set.mem_range_self path
  rw [← hpaths] at hmem hsorted
  refine ⟨paths, hpaths.symm, fun path => ?_, ?_⟩
  · simpa [FileSystem.hasFileBelow_iff hplace hdir] using hmem (.ok path)
  · rw [List.pairwise_map] at hsorted
    exact hsorted.imp fun hbefore => hbefore _ _ rfl rfl

/-- The source files below a directory, in their order. -/
lemma exists_discover (env : Environment) (hproper : fs.root.Proper)
    (hfollow : options.followLinks = false) (hgit : options.respectGitignore = false)
    (hroot : fs.isDir root = true) :
    ∃ paths : List String, discover fs env options root = .ok (paths.map .ok) ∧
      (∀ path, path ∈ paths ↔ fs.HasFileBelow root path ∧ options.accepts root path = true) ∧
      paths.Pairwise Path.Precedes := by
  obtain ⟨paths, hfiles, hmem, hsorted⟩ := exists_files_look hproper hroot
  have hwalk : walkAll fs options root = (paths.filter (options.accepts root)).map .ok := by
    rw [walkAll, hfollow, hfiles, List.filterMap_map, ← List.filterMap_eq_filter,
      List.map_filterMap]
    congr 1
    funext path
    by_cases haccepts : options.accepts root path = true <;> simp [Option.guard, haccepts]
  refine ⟨paths.filter (options.accepts root), ?_, fun path => ?_, hsorted.filter _⟩
  · simp [discover, FileSystem.exists?_of_isDir hroot, hroot, hgit, hwalk]
  · rw [List.mem_filter, hmem]

/-- **A walk yields the source files below its root, in order.** Where no links are followed and no
ignore rules are minded, the answer has no faults; it has every file below the root, and every
link there that leads to a file, if it is accepted as a source file, once and in the order of
paths. The answer is the same however the directories list their entries.

**Proof sketch.** What is yielded and in which order is known of every tree. A sorted list is
known by its members, and these do not depend on the order of the entries. -/
theorem discover_eq_sortedFiles (env : Environment) (options : DiscoveryOptions)
    (hproper : fs.root.Proper) (hfollow : options.followLinks = false)
    (hgit : options.respectGitignore = false) (hroot : fs.isDir root = true) :
    ∃ paths : List String, discover fs env options root = .ok (paths.map .ok) ∧
      (∀ path, path ∈ paths ↔ fs.HasFileBelow root path ∧ options.accepts root path = true) ∧
      paths.Nodup ∧ paths.Pairwise Path.Precedes ∧
      ∀ fs', fs.SameTree fs' → fs'.root.Proper →
        discover fs' env options root = .ok (paths.map .ok) := by
  obtain ⟨paths, hdiscover, hmem, hsorted⟩ := exists_discover env hproper hfollow hgit hroot
  refine ⟨paths, hdiscover, hmem, hsorted.nodup, hsorted, fun fs' hsame hproper' => ?_⟩
  obtain ⟨paths', hdiscover', hmem', hsorted'⟩ :=
    exists_discover env hproper' hfollow hgit (hsame.keeps.isDir hroot)
  have hfiles : ∀ path, fs'.HasFileBelow root path ↔ fs.HasFileBelow root path :=
    fun path => ⟨hsame.symm.hasFileBelow, hsame.hasFileBelow⟩
  rw [hdiscover', hsorted'.eq_of_mem_iff hsorted fun path => by rw [hmem', hmem, hfiles]]

/-- A link to a file, a directory, a hidden directory and a link to nothing. -/
def linkedEntries : List (String × Entry) :=
  [("b.py", .link "a/x.py"), ("a", .dir [("x.py", .file .empty)]),
    (".h", .dir [("m.py", .file .empty)]), ("dead.py", .link "gone")]

/-- The names in the directory are in order. -/
lemma proper_linkedEntries : (Entry.dir linkedEntries).Proper := by
  have hfolder : ∀ name, Path.IsFileName name → (Entry.dir [(name, .file .empty)]).Proper := by
    intro name hname
    exact .dir (List.forall_mem_singleton.mpr hname) (List.nodup_singleton name)
      (List.forall_mem_singleton.mpr (.file .empty))
  refine .dir (by decide) (by decide) ?_
  simp only [linkedEntries, List.forall_mem_cons, List.not_mem_nil, false_imp_iff, implies_true,
    and_true]
  exact ⟨.link _, hfolder _ (by decide), hfolder _ (by decide), .link _⟩

/-- A dot leads to the directory. -/
lemma resolve_linkedEntries : FileSystem.resolve ⟨.dir linkedEntries, []⟩ "." = .ok [] := by
  rw [FileSystem.resolve_eq_ok_iff, FileSystem.spot_eq_ok_iff]
  exact ⟨by decide, .stay rfl (Or.inr rfl) (.done _ _)⟩

/-- The link leads to a file. -/
lemma isFile_linkedEntries : FileSystem.isFile ⟨.dir linkedEntries, []⟩ "./b.py" = true := by
  rw [FileSystem.isFile_iff]
  refine ⟨.empty, FileSystem.entry_eq_ok_iff.mpr ⟨["a", "x.py"], ?_, rfl⟩⟩
  rw [FileSystem.spot_eq_ok_iff]
  refine ⟨by decide, .stay rfl (Or.inr rfl) (.link rfl (by constructor <;> decide) rfl ?_)⟩
  exact .enter rfl (by constructor <;> decide) rfl nofun
    (.enter rfl (by constructor <;> decide) rfl nofun (.done _ _))

/-- The walk of such a directory finds the hidden file and the link to a file, and listing the
directory the other way round makes no difference. -/
theorem discover_linkedEntries :
    ∃ paths : List String,
      discover ⟨.dir linkedEntries, []⟩ ⟨[]⟩ ⟨["py"], [], false, false⟩ "." =
        .ok (paths.map .ok) ∧
      "./.h/m.py" ∈ paths ∧ "./b.py" ∈ paths ∧ paths.Nodup ∧ paths.Pairwise Path.Precedes ∧
      discover ⟨.dir linkedEntries.reverse, []⟩ ⟨[]⟩ ⟨["py"], [], false, false⟩ "." =
        .ok (paths.map .ok) := by
  have hresolve := resolve_linkedEntries
  have hroot : FileSystem.isDir ⟨.dir linkedEntries, []⟩ "." = true :=
    FileSystem.isDir_iff.mpr ⟨[], linkedEntries, FileSystem.resolve_eq_ok_iff.mp hresolve, rfl⟩
  obtain ⟨paths, hdiscover, hmem, hnodup, hsorted, hsame⟩ := discover_eq_sortedFiles ⟨[]⟩
    ⟨["py"], [], false, false⟩ proper_linkedEntries rfl rfl hroot
  have hreverse := (List.reverse_perm linkedEntries).symm
  refine ⟨paths, hdiscover, (hmem _).mpr ⟨?_, by decide⟩, (hmem _).mpr ⟨?_, by decide⟩, hnodup,
    hsorted, hsame _ (FileSystem.sameTree_of_perm hreverse (by decide) [])
      (proper_linkedEntries.of_perm hreverse)⟩
  · exact ⟨[], [".h", "m.py"], .file .empty, hresolve, rfl, by decide, rfl⟩
  · exact ⟨[], ["b.py"], .link "a/x.py", hresolve, rfl, by decide, isFile_linkedEntries⟩

end Discover

end CodeCatalog
