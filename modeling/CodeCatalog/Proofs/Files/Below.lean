import CodeCatalog.Proofs.Files.Opening

/-!
# Looking up names below a directory

A path that goes on from a directory by one name is looked up in that directory, however the path
of the directory is spelled. So what a path finds below a root is said by the tree at the root
alone, if there are no links in it.

## Main definitions

* `CodeCatalog.Path.slashed` — a path with a slash at its end.
* `CodeCatalog.Entry.LinkFree` — trees without links.
* `CodeCatalog.FileSystem.HasTree` — a tree that is found at a path.

## Main results

* `CodeCatalog.Path.below_eq_slashed_append` — the text of a path below a root.
* `CodeCatalog.FileSystem.entry_join_eq_ok`, `entry_join_of_lookup` — one more name.
* `CodeCatalog.FileSystem.HasTree.entry_below_iff` — what paths below a root find.
* `CodeCatalog.FileSystem.hasTree_of_entry` — a tree whose paths are short enough is found.
-/

namespace CodeCatalog

/-! ## The text of a path below a root -/

namespace Path

variable {base root name : String} {names : List String}

/-- A path with a slash at its end. -/
def slashed (path : String) : String :=
  if path.toList.getLast? == some '/' then path else path ++ "/"

/-- Joining is putting a path behind a slash. -/
lemma join_eq_slashed_append (hbase : base ≠ "") {path : String} (hpath : isAbsolute path = false) :
    join base path = slashed base ++ path := by
  rw [join, hpath, if_neg Bool.false_ne_true, if_neg (by simpa using hbase), slashed]
  split_ifs <;> rfl

/-- A path with a slash at its end is not empty. -/
lemma slashed_ne_empty (path : String) : slashed path ≠ "" := by
  rw [slashed]
  split_ifs with hslash
  · rintro rfl
    simp at hslash
  · simp

/-- A path with one more name is not empty. -/
lemma join_ne_empty (hbase : base ≠ "") (hname : IsFileName name) : join base name ≠ "" := by
  rw [join_eq_slashed_append hbase hname.not_isAbsolute]
  intro hempty
  exact slashed_ne_empty base (String.append_eq_empty_iff.mp hempty).1

/-- A path that ends in a name gets a slash. -/
lemma slashed_append_name (front : String) (hname : IsFileName name) :
    slashed (front ++ name) = front ++ name ++ "/" := by
  have hne : name.toList ≠ [] := by simpa using hname.ne_empty
  have hlast : (front ++ name).toList.getLast? ≠ some '/' := by
    rw [String.toList_append, List.getLast?_append, List.getLast?_eq_some_getLast hne,
      Option.some_or]
    intro hslash
    exact hname.noSlash (Option.some.inj hslash ▸ List.getLast_mem hne)
  rw [slashed, if_neg (by simpa using hlast)]

/-- **The text of a path below a root**: the names with slashes between them stand behind the root
and a slash. -/
lemma below_eq_slashed_append (hroot : root ≠ "") (hnames : ∀ name ∈ names, IsFileName name)
    (hne : names ≠ []) : below root names = slashed root ++ "/".intercalate names := by
  induction names generalizing root with
  | nil => exact absurd rfl hne
  | cons name names ih =>
    obtain ⟨hname, hrest⟩ := List.forall_mem_cons.mp hnames
    rw [below_cons]
    cases names with
    | nil =>
      rw [below_nil, join_eq_slashed_append hroot hname.not_isAbsolute,
        String.intercalate_singleton]
    | cons next names =>
      rw [ih (join_ne_empty hroot hname) hrest (List.cons_ne_nil _ _),
        join_eq_slashed_append hroot hname.not_isAbsolute, slashed_append_name _ hname,
        String.intercalate_cons_cons]
      simp only [String.append_assoc]

/-- Going down by some names and by more of them is going down by all. -/
lemma below_append (root : String) (names more : List String) :
    below root (names ++ more) = below (below root names) more := List.foldl_append

/-- Going down by one more name is joining it. -/
lemma below_concat (root : String) (names : List String) (name : String) :
    below root (names ++ [name]) = join (below root names) name := by
  rw [below_append, below_cons, below_nil]

/-- A path below a root is not empty. -/
lemma below_ne_empty (hroot : root ≠ "") (hnames : ∀ name ∈ names, IsFileName name) :
    below root names ≠ "" := by
  induction names generalizing root with
  | nil => exact hroot
  | cons name names ih =>
    obtain ⟨hname, hrest⟩ := List.forall_mem_cons.mp hnames
    exact ih (join_ne_empty hroot hname) hrest

/-- A name is put behind the parts of a path, in place of an empty one at the end. -/
lemma splitSlash_join (hbase : base ≠ "") (hname : IsFileName name) :
    ∃ front, splitSlash (join base name) = front ++ [name] ∧
      (splitSlash base = front ∨ splitSlash base = front ++ [""]) := by
  rw [join_eq_slashed_append hbase hname.not_isAbsolute, slashed]
  split_ifs with hslash
  · obtain ⟨front, hfront⟩ := List.getLast?_eq_some_iff.mp (beq_iff_eq.mp hslash)
    obtain rfl : base = String.ofList front ++ "/" := by
      rw [String.ext_iff, hfront, String.toList_append, String.toList_ofList]
      rfl
    refine ⟨splitSlash (String.ofList front), ?_, Or.inr (splitSlash_slash _)⟩
    rw [splitSlash_append_slash, splitSlash_of_not_mem hname.noSlash]
  · exact ⟨splitSlash base, by rw [splitSlash_append_slash, splitSlash_of_not_mem hname.noSlash],
      Or.inl rfl⟩

/-- One more name does not make a path absolute. -/
lemma isAbsolute_join (hbase : base ≠ "") (hname : IsFileName name) :
    isAbsolute (join base name) = isAbsolute base := by
  rw [join_eq_slashed_append hbase hname.not_isAbsolute, slashed]
  split_ifs
  · exact isAbsolute_append hbase name
  · rw [String.append_assoc, isAbsolute_append hbase]

end Path

/-! ## Trees without links -/

/-- What is in a directory: itself, and what is in its entries. -/
lemma Entry.at?_dir_eq_some {entries : List (String × Entry)} {names : List String} {found : Entry}
    (h : (Entry.dir entries).at? names = some found) :
    names = [] ∧ found = .dir entries ∨
      ∃ entry ∈ entries, ∃ rest, names = entry.1 :: rest ∧ entry.2.at? rest = some found := by
  cases names with
  | nil => exact Or.inl ⟨rfl, by simpa using h.symm⟩
  | cons name rest =>
    obtain ⟨_, inner, hdir, hlookup, hinner⟩ := exists_dir_of_at?_cons h
    obtain rfl := Entry.dir.inj hdir
    obtain ⟨before, after, rfl, -⟩ := List.lookup_eq_some_iff.mp hlookup
    exact Or.inr ⟨(name, inner), by simp, rest, rfl, hinner⟩

/-- In a file there is nothing else. -/
lemma Entry.at?_file_eq_some {content : ByteArray} {names : List String} {found : Entry}
    (h : (Entry.file content).at? names = some found) : names = [] ∧ found = .file content := by
  cases names with
  | nil => exact ⟨rfl, by simpa using h.symm⟩
  | cons name rest =>
    obtain ⟨entries, -, hdir, -⟩ := exists_dir_of_at?_cons h
    cases hdir

/-- Whether there are no links in a tree. -/
def Entry.LinkFree (e : Entry) : Prop := ∀ names target, e.at? names ≠ some (.link target)

/-- There are no links in what stands in a tree without links. -/
lemma Entry.LinkFree.at? {e found : Entry} (h : e.LinkFree) {names : List String}
    (hat : e.at? names = some found) : found.LinkFree := by
  intro more target hmore
  exact h (names ++ more) target (by rw [Entry.at?_append, hat, Option.bind_some, hmore])

namespace FileSystem

variable {fs : FileSystem} {base root name : String} {entries : List (String × Entry)} {e : Entry}

/-! ## One more name -/

/-- A slash behind the path of a directory makes no difference. -/
lemma leads_concat_empty_iff {links : Nat} {place front directory : List String}
    (hdir : fs.root.at? directory = some (.dir entries)) :
    fs.Leads false links place (front ++ [""]) (.occupied directory) ↔
      fs.Leads false links place front (.occupied directory) := by
  -- what the front leads to is where the whole path leads
  have hstay : ∀ {found more}, fs.root.at? found = some (.dir more) →
      fs.Leads false links place front (.occupied found) →
      fs.Leads false links place (front ++ [""]) (.occupied found) := by
    intro found more hfound hleads
    obtain ⟨links', hfollow⟩ := hleads.follow_append [""]
    rw [← follow_eq_ok_iff, hfollow, follow_stay hfound (Or.inl rfl), follow_nil]
  refine ⟨fun hleads => ?_, hstay hdir⟩
  obtain ⟨found, more, hfront, hfound⟩ := hleads.front
  have hwhole := hstay hfound hfront
  rw [← follow_eq_ok_iff] at hwhole hleads
  obtain rfl : found = directory := by simpa using hwhole.symm.trans hleads
  exact hfront

/-- The path of a directory has no fault if a path that goes on from it has none. -/
lemma pathFault?_of_join (hbase : base ≠ "") (hname : Path.IsFileName name)
    (h : pathFault? (Path.join base name) = none) : pathFault? base = none := by
  obtain ⟨rest, hrest⟩ : ∃ rest, Path.join base name = base ++ rest := by
    rw [Path.join_eq_slashed_append hbase hname.not_isAbsolute, Path.slashed]
    split_ifs
    · exact ⟨name, rfl⟩
    · exact ⟨"/" ++ name, String.append_assoc ..⟩
  rw [pathFault?_eq_none_iff, hrest, String.toList_append, List.mem_append, not_or,
    String.utf8ByteSize_append] at h
  rw [pathFault?_eq_none_iff]
  exact ⟨h.1.1, hbase, by omega⟩

/-- A path that leads anywhere is not empty. -/
lemma ne_empty_of_entry (h : fs.entry base = .ok e) : base ≠ "" := by
  obtain ⟨place, hspot, -⟩ := entry_eq_ok_iff.mp h
  exact (pathFault?_eq_none_iff.mp (spot_eq_ok_iff.mp hspot).1).2.1

/-- What a path with one more name finds is what the name stands for in the directory before it,
unless that is a link. -/
lemma entry_join_eq_ok (hbase : base ≠ "") (hname : Path.IsFileName name)
    (h : fs.entry (Path.join base name) = .ok e) :
    ∃ entries inner, fs.entry base = .ok (.dir entries) ∧ entries.lookup name = some inner ∧
      ((∀ target, inner ≠ .link target) → inner = e) := by
  obtain ⟨place, hspot, hat⟩ := entry_eq_ok_iff.mp h
  obtain ⟨hfault, hleads⟩ := spot_eq_ok_iff.mp hspot
  obtain ⟨front, hsplit, hfront⟩ := Path.splitSlash_join hbase hname
  rw [start, Path.isAbsolute_join hbase hname, ← start, hsplit] at hleads
  obtain ⟨directory, entries, hdirectory, hdir⟩ := hleads.front
  have hentry : fs.entry base = .ok (.dir entries) := by
    refine entry_eq_ok_iff.mpr ⟨directory, spot_eq_ok_iff.mpr
      ⟨pathFault?_of_join hbase hname hfault, ?_⟩, hdir⟩
    rcases hfront with hfront | hfront
    · rwa [hfront]
    · rwa [hfront, leads_concat_empty_iff hdir]
  obtain ⟨links, hfollow⟩ := hdirectory.follow_append [name]
  rw [← follow_eq_ok_iff, hfollow, follow_eq_ok_iff] at hleads
  cases hleads with
  | stay _ hpart => exact absurd hpart (not_or.mpr ⟨hname.ne_empty, hname.ne_dot⟩)
  | up => exact absurd rfl hname.ne_dots
  | @link _ _ _ _ _ target _ hdir' _ hlink =>
    rw [Entry.at?_concat hdir] at hlink
    exact ⟨entries, _, hentry, hlink, fun hno => absurd rfl (hno target)⟩
  | enter _ _ he _ hdone =>
    cases hdone
    obtain rfl := Option.some.inj (he.symm.trans hat)
    rw [Entry.at?_concat hdir] at he
    exact ⟨entries, _, hentry, he, fun _ => rfl⟩

/-- A path with one more name finds what the name stands for in the directory before it. -/
lemma entry_join_of_lookup (hname : Path.IsFileName name)
    (hentry : fs.entry base = .ok (.dir entries)) (hlookup : entries.lookup name = some e)
    (hlink : ∀ target, e ≠ .link target) (hsize : name.utf8ByteSize ≤ maxName)
    (hfault : pathFault? (Path.join base name) = none) :
    fs.entry (Path.join base name) = .ok e := by
  have hbase := ne_empty_of_entry hentry
  obtain ⟨directory, hspot, hdir⟩ := entry_eq_ok_iff.mp hentry
  obtain ⟨-, hleads⟩ := spot_eq_ok_iff.mp hspot
  obtain ⟨front, hsplit, hfront⟩ := Path.splitSlash_join hbase hname
  have hdirectory :
      fs.Leads false maxLinks (fs.start base) front (.occupied directory) := by
    rcases hfront with hfront | hfront
    · rwa [hfront] at hleads
    · rwa [hfront, leads_concat_empty_iff hdir] at hleads
  have hat : fs.root.at? (directory ++ [name]) = some e := by
    rw [Entry.at?_concat hdir, hlookup]
  refine entry_eq_ok_iff.mpr ⟨directory ++ [name], spot_eq_ok_iff.mpr ⟨hfault, ?_⟩, hat⟩
  obtain ⟨links, hfollow⟩ := hdirectory.follow_append [name]
  have hisName : IsName false name [] :=
    ⟨not_or.mpr ⟨hname.ne_empty, hname.ne_dot⟩, hname.ne_dots, rfl, by omega⟩
  have hshape : ∀ target, e.shape ≠ .link target :=
    fun target hshape => hlink target (Entry.eq_link_of_shape hshape)
  rw [start, Path.isAbsolute_join hbase hname, ← start, hsplit, ← follow_eq_ok_iff, hfollow,
    follow_enter hdir hisName hat hshape, follow_nil]

/-! ## Trees at paths -/

/-- Whether a tree is found at a path: every entry of it at its own path below. -/
def HasTree (fs : FileSystem) (root : String) (content : Entry) : Prop :=
  ∀ names found, content.at? names = some found → fs.entry (Path.below root names) = .ok found

variable {content : Entry} {names : List String}

/-- The tree itself is found at the root. -/
lemma HasTree.entry (h : fs.HasTree root content) : fs.entry root = .ok content :=
  h [] content (Entry.at?_nil content)

/-- **What paths below a root find** is what is in the tree at the root.

**Proof sketch.** Induction on the names from the last one on. A path that finds something finds a
directory without its last name, and that is one of the tree. -/
lemma HasTree.entry_below_iff (h : fs.HasTree root content) (hlinks : content.LinkFree)
    (hnames : ∀ name ∈ names, Path.IsFileName name) :
    fs.entry (Path.below root names) = .ok e ↔ content.at? names = some e := by
  refine ⟨fun hentry => ?_, h names e⟩
  induction names using List.reverseRecOn generalizing e with
  | nil =>
    obtain rfl : content = e := Except.ok.inj (h.entry.symm.trans hentry)
    exact Entry.at?_nil content
  | append_singleton names name ih =>
    obtain ⟨hnames, hname⟩ := List.forall_mem_append.mp hnames
    rw [Path.below_concat] at hentry
    have hbase := Path.below_ne_empty (ne_empty_of_entry h.entry) hnames
    obtain ⟨entries, inner, hdir, hlookup, hinner⟩ :=
      entry_join_eq_ok hbase (hname name List.mem_cons_self) hentry
    have hat : content.at? (names ++ [name]) = some inner := by
      rw [Entry.at?_concat (ih hnames hdir), hlookup]
    rw [hat, hinner fun target hlink => hlinks _ target (hlink ▸ hat)]

/-- **A tree whose paths are short enough is found** at the path that leads to it. -/
lemma hasTree_of_entry (hentry : fs.entry root = .ok content) (hlinks : content.LinkFree)
    (hnames : ∀ names found, content.at? names = some found →
      ∀ name ∈ names, Path.IsFileName name ∧ name.utf8ByteSize ≤ maxName)
    (hfault : ∀ names found, content.at? names = some found →
      pathFault? (Path.below root names) = none) : fs.HasTree root content := by
  intro names
  induction names using List.reverseRecOn with
  | nil =>
    intro found hat
    obtain rfl : content = found := by simpa using hat
    exact hentry
  | append_singleton names name ih =>
    intro found hat
    obtain ⟨directory, hdirectory, hfound⟩ := Option.bind_eq_some_iff.mp
      ((Entry.at?_append content names [name]).symm.trans hat)
    obtain ⟨entries, inner, rfl, hlookup, hinner⟩ := Entry.exists_dir_of_at?_cons hfound
    obtain rfl : inner = found := by simpa using hinner
    obtain ⟨hname, hsize⟩ := hnames _ _ hat name (by simp)
    have hpath := hfault _ _ hat
    rw [Path.below_concat] at hpath ⊢
    exact entry_join_of_lookup hname (ih _ hdirectory) hlookup
      (fun target hlink => hlinks _ target (hlink ▸ hat)) hsize hpath

end FileSystem

end CodeCatalog
