import CodeCatalog.Proofs.Discovery.Unignored

/-!
# Walks of the same tree from different roots

The files that a walk yields, seen from its root, are said by the tree at the root: by the names
that lead to them, and by the ignore files in the tree. The root itself is looked at in two cases
only, when ignore rules are minded: a root inside a `.git` directory, and a root with the name `-`.
From there such a walk yields nothing.

## Main definitions

* `CodeCatalog.Entry.Yields` — the source files of a tree, by the names that lead to them.
* `CodeCatalog.DiscoveryOptions.bars` — the roots from which a walk yields nothing.
* `CodeCatalog.TreeAt` — a tree at a root, where nothing outside has a say.

## Main results

* `CodeCatalog.DiscoveryOptions.accepts_below` — a file is accepted by its relative path.
* `CodeCatalog.Found.look_of_linkFree` — where no links are, it does not matter whether they are
  followed.
* `CodeCatalog.TreeAt.exists_found` — the source files of a tree at a root.
* `CodeCatalog.discover_relocated` — the same tree at two roots.
-/

namespace CodeCatalog

/-! ## Paths seen from a root -/

namespace Path

variable {root : String} {names : List String}

/-- What stands behind a front is left when the front is dropped. -/
lemma dropFront?_append (front back : List String) :
    dropFront? front (front ++ back) = some back := by
  induction front with
  | nil => rfl
  | cons part front ih => rw [List.cons_append, dropFront?, if_pos rfl, ih]

/-- Seen from the root, a path below it is made of the names that lead to it. -/
lemma relativeTo?_below (root : String) (hnames : ∀ name ∈ names, IsFileName name) :
    relativeTo? root (below root names) = some (ofComponents names) := by
  rw [relativeTo?, components_below root hnames, dropFront?_append, Option.map_some]

/-- So paths below a root, seen from it, do not depend on it. -/
lemma map_relativeTo?_below (root : String) {listing : List (List String)}
    (hnames : ∀ names ∈ listing, ∀ name ∈ names, IsFileName name) :
    (listing.map (below root)).map (relativeTo? root) = listing.map (some ∘ ofComponents) := by
  rw [List.map_map]
  exact List.map_congr_left fun names hmem => relativeTo?_below root (hnames names hmem)

/-- The file name of a path below a root is the last name. -/
lemma fileName?_below (root : String) (hnames : ∀ name ∈ names, IsFileName name)
    (hne : names ≠ []) : fileName? (below root names) = names.getLast? := by
  have hlast := List.getLast?_eq_some_getLast hne
  have hname := hnames _ (List.getLast_mem hne)
  have hslash : names.getLast hne ≠ "/" := by
    intro heq
    exact hname.noSlash (by rw [heq]; exact List.mem_cons_self)
  rw [fileName?, components_below root hnames, List.getLast?_append, hlast, Option.some_or]
  simp [hslash, hname.ne_dot, hname.ne_dots]

/-- The order of lists of names. -/
def NamesPrecede (names names' : List String) : Prop :=
  names.map (fun name => name.toUTF8.toList) < names'.map fun name => name.toUTF8.toList

instance : Std.Asymm NamesPrecede := ⟨fun _ _ => List.lt_asymm⟩

/-- Paths below one root are in the order of the names that lead to them. -/
lemma namesPrecede_of_precedes {names' : List String} (hnames : ∀ name ∈ names, IsFileName name)
    (hnames' : ∀ name ∈ names', IsFileName name)
    (h : Precedes (below root names) (below root names')) : NamesPrecede names names' := by
  rw [Precedes, componentBytes, componentBytes, components_below root hnames,
    components_below root hnames', List.map_append, List.map_append] at h
  generalize (components root).map (fun part => part.toUTF8.toList) = front at h
  induction front with
  | nil => exact h
  | cons part front ih =>
    rcases List.cons_lt_cons_iff.mp h with hlt | ⟨-, hlt⟩
    · exact absurd hlt (List.lt_irrefl part)
    · exact ih hlt

end Path

/-- A file is accepted by its path as seen from the root, wherever the root is. -/
lemma DiscoveryOptions.accepts_below (options : DiscoveryOptions) (root : String)
    {names : List String} (hnames : ∀ name ∈ names, Path.IsFileName name) (hne : names ≠ []) :
    options.accepts root (Path.below root names) = options.accepts "" (Path.below "" names) := by
  simp only [accepts, Path.extension?, Path.fileName?_below _ hnames hne,
    Path.relativeTo?_below _ hnames, Option.getD_some]

/-- A path below a root is in the directory of the version control if the root is, or if it leads
through that directory below the root. -/
lemma inGitDirectory_below (root : String) {names : List String}
    (hnames : ∀ name ∈ names, Path.IsFileName name) :
    inGitDirectory (Path.below root names) = (inGitDirectory root || names.contains ".git") := by
  rw [inGitDirectory, inGitDirectory, Path.components_below root hnames, List.contains_append]

/-! ## Trees without links -/

/-- Where no links are, it does not matter whether they are followed. -/
lemma Found.lookAt_of_linkFree (jump jump' : Trail → String → Found) {e : Entry} (h : e.Proper)
    (hlinks : e.LinkFree) (trail : Trail) (path : String) (place : List String) :
    lookAt jump trail path place e = lookAt jump' trail path place e := by
  induction h generalizing trail path place with
  | file content => rfl
  | link target => exact absurd (Entry.at?_nil _) (hlinks [] target)
  | fullDevice => rfl
  | @dir entries names distinct inside ih =>
    have hinside : ∀ entry ∈ entries, entry.2.LinkFree := by
      intro entry hentry
      have hat : (Entry.dir entries).at? [entry.1] = some entry.2 := by
        rw [Entry.at?_dir_cons, (Entry.lookup_eq_some_iff_mem distinct).mpr hentry,
          Option.bind_some, Entry.at?_nil]
      exact hlinks.at? hat
    rw [lookAt, lookAt, lookInside_eq_map, lookInside_eq_map]
    congr 3
    refine List.map_congr_left fun entry hentry => ?_
    rw [ih entry hentry (hinside entry hentry)]

/-- Without links it does not matter whether they are followed. -/
lemma Found.look_of_linkFree {fs : FileSystem} {root : String} {content : Entry}
    (hentry : fs.entry root = .ok content) (hproper : content.Proper) (hlinks : content.LinkFree)
    (followLinks : Bool) : look fs followLinks root = look fs false root := by
  obtain ⟨place, hspot, hat⟩ := FileSystem.entry_eq_ok_iff.mp hentry
  have hplace := FileSystem.resolve_eq_ok_iff.mpr hspot
  simp only [look, hplace, hat]
  exact lookAt_of_linkFree _ _ hproper hlinks [] root place

/-- Options with links not followed. -/
def DiscoveryOptions.withoutLinks (options : DiscoveryOptions) : DiscoveryOptions :=
  { options with followLinks := false }

/-- Without links a whole walk does not depend on whether they are followed. -/
lemma discover_of_linkFree {fs : FileSystem} (env : Environment) (options : DiscoveryOptions)
    {root : String} {content : Entry} (hentry : fs.entry root = .ok content)
    (hproper : content.Proper) (hlinks : content.LinkFree) :
    discover fs env options root = discover fs env options.withoutLinks root := by
  have hlook := Found.look_of_linkFree hentry hproper hlinks options.followLinks
  simp only [discover, walkUnignored, walkAll, lookUnignored, hlook]
  rfl

/-! ## The source files of a tree -/

/-- Whether names lead in a tree to a source file: one that is accepted by its relative path and,
if ignore rules are minded, is in no `.git` directory and spared by the ignore files in the tree. -/
def Entry.Yields (content : Entry) (options : DiscoveryOptions) (names : List String) : Prop :=
  (∃ bytes, content.at? names = some (.file bytes)) ∧
    options.accepts "" (Path.below "" names) = true ∧
    (options.respectGitignore = true → ".git" ∉ names ∧ content.Spares names)

/-- Whether a walk yields nothing because of the root from which it goes. -/
def DiscoveryOptions.bars (options : DiscoveryOptions) (root : String) : Bool :=
  options.respectGitignore && (inGitDirectory root || isStandardInput root)

/-- A tree at a root. If ignore rules are minded, the root does not begin with `./` twice, and no
ignore file outside the tree says anything about it. -/
structure TreeAt (fs : FileSystem) (env : Environment) (options : DiscoveryOptions)
    (root : String) (content : Entry) : Prop where
  proper : fs.root.Proper
  hasTree : fs.HasTree root content
  spelling : options.respectGitignore = true → ¬ Path.DotsTwice root
  outside : options.respectGitignore = true → fs.Undisturbed env root content

/-- In a tree without links, the files below its root are the files in it. -/
lemma FileSystem.HasTree.hasFileBelow_iff {fs : FileSystem} {root path : String} {content : Entry}
    (h : fs.HasTree root content) (hlinks : content.LinkFree) :
    fs.HasFileBelow root path ↔
      ∃ names bytes, content.at? names = some (.file bytes) ∧ path = Path.below root names := by
  obtain ⟨place, hspot, hplace⟩ := entry_eq_ok_iff.mp h.entry
  rw [FileSystem.hasFileBelow_iff (resolve_eq_ok_iff.mpr hspot) hplace]
  constructor
  · rintro ⟨names, found, hat, hpath, hfile⟩
    obtain ⟨bytes, rfl⟩ := hlinks.eq_file_of_leadsToFile hat hfile
    exact ⟨names, bytes, hat, hpath⟩
  · rintro ⟨names, bytes, hat, hpath⟩
    exact ⟨names, .file bytes, hat, hpath, rfl⟩

namespace TreeAt

variable {fs : FileSystem} {env : Environment} {options : DiscoveryOptions} {root : String}
  {content : Entry} {entries : List (String × Entry)}

/-- The names in the tree at a root are in order. -/
lemma content_proper (h : TreeAt fs env options root content) : content.Proper := by
  obtain ⟨place, -, hplace⟩ := FileSystem.entry_eq_ok_iff.mp h.hasTree.entry
  exact (h.proper.at? hplace).2

/-- The names that lead to source files in a directory. -/
lemma names_of_at? (h : TreeAt fs env options root (.dir entries)) {names : List String}
    {bytes : ByteArray} (hat : (Entry.dir entries).at? names = some (.file bytes)) :
    (∀ name ∈ names, Path.IsFileName name) ∧ names ≠ [] := by
  refine ⟨(h.content_proper.at? hat).1, ?_⟩
  rintro rfl
  rw [Entry.at?_nil] at hat
  cases hat

/-- **The source files of a tree at a root.**

**Proof sketch.** What a walk yields is known (`exists_discover`, `exists_discover_unignored`). Each
of the conditions on a path below the root is one on the names that lead to it, and perhaps one on
the root. -/
lemma exists_found (h : TreeAt fs env options root (.dir entries))
    (hlinks : (Entry.dir entries).LinkFree) :
    ∃ found : List String, discover fs env options root = .ok (found.map .ok) ∧
      (∀ path, path ∈ found ↔ options.bars root = false ∧
        ∃ names, path = Path.below root names ∧ (Entry.dir entries).Yields options names) ∧
      found.Pairwise Path.Precedes := by
  have hroot : fs.isDir root = true := by
    obtain ⟨place, hspot, hplace⟩ := FileSystem.entry_eq_ok_iff.mp h.hasTree.entry
    exact FileSystem.isDir_iff.mpr ⟨place, entries, hspot, hplace⟩
  have hfollow : options.withoutLinks.followLinks = false := rfl
  have haccepts : ∀ {names bytes}, (Entry.dir entries).at? names = some (.file bytes) →
      options.withoutLinks.accepts root (Path.below root names) =
        options.accepts "" (Path.below "" names) := by
    intro names bytes hat
    obtain ⟨hnames, hne⟩ := h.names_of_at? hat
    exact options.accepts_below root hnames hne
  rw [discover_of_linkFree env options h.hasTree.entry h.content_proper hlinks]
  by_cases hgit : options.respectGitignore = true
  · obtain ⟨found, hfound, hmem, hsorted⟩ :=
      exists_discover_unignored env h.proper hfollow hgit hroot
    refine ⟨found, hfound, fun path => ?_, hsorted⟩
    rw [hmem, FileSystem.hasSparedFileBelow_iff h.hasTree hlinks h.content_proper
      (h.spelling hgit) (h.outside hgit)]
    constructor
    · rintro ⟨⟨hinput, names, bytes, hat, rfl, hspares⟩, hnoGit, haccepted⟩
      rw [inGitDirectory_below root (h.names_of_at? hat).1, Bool.or_eq_false_iff] at hnoGit
      refine ⟨by simp [DiscoveryOptions.bars, hinput, hnoGit.1], names, rfl, ⟨bytes, hat⟩,
        by rwa [haccepts hat] at haccepted, fun _ => ⟨by simpa using hnoGit.2, hspares⟩⟩
    · rintro ⟨hbars, names, rfl, ⟨bytes, hat⟩, haccepted, hrules⟩
      obtain ⟨hrootGit, hinput⟩ : inGitDirectory root = false ∧ isStandardInput root = false := by
        simpa [DiscoveryOptions.bars, hgit] using hbars
      refine ⟨⟨hinput, names, bytes, hat, rfl, (hrules hgit).2⟩, ?_, by rwa [haccepts hat]⟩
      rw [inGitDirectory_below root (h.names_of_at? hat).1, hrootGit, Bool.false_or]
      simpa using (hrules hgit).1
  · obtain ⟨found, hfound, hmem, hsorted⟩ :=
      exists_discover env h.proper hfollow (Bool.eq_false_iff.mpr hgit) hroot
    refine ⟨found, hfound, fun path => ?_, hsorted⟩
    rw [hmem, h.hasTree.hasFileBelow_iff hlinks]
    constructor
    · rintro ⟨⟨names, bytes, hat, rfl⟩, haccepted⟩
      exact ⟨by simp [DiscoveryOptions.bars, hgit], names, rfl, ⟨bytes, hat⟩,
        by rwa [haccepts hat] at haccepted, fun hon => absurd hon hgit⟩
    · rintro ⟨-, names, rfl, ⟨bytes, hat⟩, haccepted, -⟩
      exact ⟨⟨names, bytes, hat, rfl⟩, by rwa [haccepts hat]⟩

/-- The source files of a tree at a root are known by the names that lead to them, in the order of
these.

**Proof sketch.** The names that lead to a path are its components behind those of the root. -/
lemma exists_listing (h : TreeAt fs env options root (.dir entries))
    (hlinks : (Entry.dir entries).LinkFree) :
    ∃ listing : List (List String),
      discover fs env options root = .ok ((listing.map (Path.below root)).map .ok) ∧
      (∀ names, names ∈ listing ↔
        options.bars root = false ∧ (Entry.dir entries).Yields options names) ∧
      listing.Pairwise Path.NamesPrecede := by
  obtain ⟨found, hfound, hmem, hsorted⟩ := h.exists_found hlinks
  set namesOf := fun path => (Path.components path).drop (Path.components root).length
  have hnames : ∀ names, (Entry.dir entries).Yields options names →
      (∀ name ∈ names, Path.IsFileName name) ∧ namesOf (Path.below root names) = names := by
    rintro names ⟨⟨bytes, hat⟩, -⟩
    have hnames := (h.names_of_at? hat).1
    exact ⟨hnames, by simp only [namesOf, Path.components_below root hnames, List.drop_left]⟩
  have hbelow : (found.map namesOf).map (Path.below root) = found := by
    rw [List.map_map]
    refine (List.map_congr_left fun path hpath => ?_).trans (List.map_id found)
    obtain ⟨-, names, rfl, hyields⟩ := (hmem path).mp hpath
    rw [Function.comp_apply, (hnames names hyields).2, id]
  refine ⟨found.map namesOf, by rw [hbelow, hfound], fun names => ?_, ?_⟩
  · rw [List.mem_map]
    constructor
    · rintro ⟨path, hpath, rfl⟩
      obtain ⟨hbars, names, rfl, hyields⟩ := (hmem path).mp hpath
      rw [(hnames names hyields).2]
      exact ⟨hbars, hyields⟩
    · rintro ⟨hbars, hyields⟩
      exact ⟨Path.below root names, (hmem _).mpr ⟨hbars, names, rfl, hyields⟩,
        (hnames names hyields).2⟩
  · rw [List.pairwise_map]
    refine hsorted.imp_of_mem fun hp hq hprecedes => ?_
    obtain ⟨-, names, rfl, hyields⟩ := (hmem _).mp hp
    obtain ⟨-, names', rfl, hyields'⟩ := (hmem _).mp hq
    obtain ⟨hfile, hback⟩ := hnames names hyields
    obtain ⟨hfile', hback'⟩ := hnames names' hyields'
    rw [hback, hback']
    exact Path.namesPrecede_of_precedes hfile hfile' hprecedes

/-- Where there is something to yield, a walk yields nothing if and only if it is barred. -/
lemma eq_nil_iff_of_mem_iff {listing : List (List String)}
    (hmem : ∀ names, names ∈ listing ↔ options.bars root = false ∧ content.Yields options names)
    (hyields : ∃ names, content.Yields options names) :
    listing = [] ↔ options.bars root = true := by
  obtain ⟨names, hyields⟩ := hyields
  rw [List.eq_nil_iff_forall_not_mem]
  constructor
  · intro hnone
    by_contra hbars
    exact hnone names ((hmem names).mpr ⟨Bool.eq_false_iff.mpr hbars, hyields⟩)
  · intro hbars more hmore
    exact absurd ((hmem more).mp hmore).1 (by simp [hbars])

end TreeAt

/-- **The same tree at two roots.** Let a directory without links be placed at two roots, in the
same file system or in two, where no ignore file outside of it says anything about it. Then walks
from both roots meet no faults. What they yield, seen from the roots, is the same list if the walk
is barred from both roots or from none; no other part of a root, and nothing outside, has a say.
From a root inside a `.git` directory, or one with the name `-`, a walk that minds ignore rules
yields nothing; so the lists differ if the walk is barred from one root only, unless there is
nothing to yield. The files that are yielded are those of the tree that `Entry.Yields` says.

**Proof sketch.** From both roots the walk yields the files to which the same names lead, in the
order of the names (`TreeAt.exists_listing`), and a list in order is known by its members. -/
theorem discover_relocated {fs fs' : FileSystem} {env env' : Environment}
    {options : DiscoveryOptions} {root root' : String} {entries : List (String × Entry)}
    (hlinks : (Entry.dir entries).LinkFree) (h : TreeAt fs env options root (.dir entries))
    (h' : TreeAt fs' env' options root' (.dir entries)) :
    ∃ found found' : List String,
      discover fs env options root = .ok (found.map .ok) ∧
      discover fs' env' options root' = .ok (found'.map .ok) ∧
      (found.map (Path.relativeTo? root) = found'.map (Path.relativeTo? root') ↔
        options.bars root = options.bars root' ∨
          ∀ names, ¬ (Entry.dir entries).Yields options names) ∧
      ∀ path, path ∈ found ↔ options.bars root = false ∧
        ∃ names, path = Path.below root names ∧ (Entry.dir entries).Yields options names := by
  obtain ⟨listing, hfound, hmem, hsorted⟩ := h.exists_listing hlinks
  obtain ⟨listing', hfound', hmem', hsorted'⟩ := h'.exists_listing hlinks
  have hfile : ∀ names, (Entry.dir entries).Yields options names →
      ∀ name ∈ names, Path.IsFileName name := by
    rintro names ⟨⟨bytes, hat⟩, -⟩
    exact (h.names_of_at? hat).1
  refine ⟨listing.map (Path.below root), listing'.map (Path.below root'), hfound, hfound', ?_, ?_⟩
  · -- seen from its root, a file is known by the names that lead to it
    rw [Path.map_relativeTo?_below root fun names hnames => hfile names ((hmem names).mp hnames).2,
      Path.map_relativeTo?_below root' fun names hnames => hfile names ((hmem' names).mp hnames).2]
    constructor
    · intro heq
      have hlength : listing.length = listing'.length := by simpa using congrArg List.length heq
      by_cases hyields : ∃ names, (Entry.dir entries).Yields options names
      · left
        rw [Bool.eq_iff_iff, ← TreeAt.eq_nil_iff_of_mem_iff hmem hyields,
          ← TreeAt.eq_nil_iff_of_mem_iff hmem' hyields, ← List.length_eq_zero_iff, hlength,
          List.length_eq_zero_iff]
      · exact Or.inr (not_exists.mp hyields)
    · intro hsame
      have hlisting : listing = listing' := by
        refine hsorted.eq_of_mem_iff hsorted' fun names => ?_
        rw [hmem, hmem']
        rcases hsame with hbars | hnone
        · rw [hbars]
        · simp only [hnone names, and_false]
      rw [hlisting]
  · intro path
    rw [List.mem_map]
    constructor
    · rintro ⟨names, hnames, rfl⟩
      obtain ⟨hbars, hyields⟩ := (hmem names).mp hnames
      exact ⟨hbars, names, rfl, hyields⟩
    · rintro ⟨hbars, names, rfl, hyields⟩
      exact ⟨names, (hmem names).mpr ⟨hbars, hyields⟩, rfl⟩

/-- A way into the directory of the version control and back leads to the root. -/
lemma resolve_guardedFiles_around : guardedFiles.resolve ".git/.." = .ok [] := by
  rw [FileSystem.resolve_eq_ok_iff, FileSystem.spot_eq_ok_iff]
  refine ⟨by decide, .enter rfl (by constructor <;> decide) rfl nofun ?_⟩
  exact .up rfl (.done _ _)

/-- The tree stands at every path that leads to it and is short enough. -/
lemma treeAt_guardedEntries {root : String} (options : DiscoveryOptions)
    (hresolve : guardedFiles.resolve root = .ok [])
    (hfault : ∀ names ∈ guardedPlaces, FileSystem.pathFault? (Path.below root names) = none)
    (hroot : ¬ Path.DotsTwice root) :
    TreeAt guardedFiles ⟨[]⟩ options root (.dir guardedEntries) where
  proper := proper_guardedEntries
  hasTree := hasTree_guardedFiles hresolve hfault
  spelling := fun _ => hroot
  outside := fun _ => undisturbed_guardedFiles hresolve (hasTree_guardedFiles hresolve hfault)

/-- A file that is neither ignored nor in the directory of the version control. -/
lemma yields_guardedEntries (respectGitignore : Bool) :
    (Entry.dir guardedEntries).Yields ⟨["py"], [], respectGitignore, true⟩ ["a.py"] := by
  refine ⟨⟨.empty, rfl⟩, ?_, fun _ => ⟨by decide, (Entry.spares_singleton_iff rfl).mpr ?_⟩⟩
  · cases respectGitignore <;> decide +kernel
  · decide +kernel

/-- One directory under two paths, of which the second goes through `.git`: a walk that minds no
ignore rules yields the same from both, and one that does yields nothing from the second. -/
theorem discover_relocated_guardedEntries :
    (∃ found found' : List String,
      discover guardedFiles ⟨[]⟩ ⟨["py"], [], false, true⟩ "." = .ok (found.map .ok) ∧
      discover guardedFiles ⟨[]⟩ ⟨["py"], [], false, true⟩ ".git/.." = .ok (found'.map .ok) ∧
      "./a.py" ∈ found ∧
      found.map (Path.relativeTo? ".") = found'.map (Path.relativeTo? ".git/..")) ∧
    ∃ found found' : List String,
      discover guardedFiles ⟨[]⟩ ⟨["py"], [], true, true⟩ "." = .ok (found.map .ok) ∧
      discover guardedFiles ⟨[]⟩ ⟨["py"], [], true, true⟩ ".git/.." = .ok (found'.map .ok) ∧
      "./a.py" ∈ found ∧
      found.map (Path.relativeTo? ".") ≠ found'.map (Path.relativeTo? ".git/..") := by
  have htree := fun options =>
    treeAt_guardedEntries options resolve_guardedFiles (by decide) (by decide)
  have htree' := fun options =>
    treeAt_guardedEntries options resolve_guardedFiles_around (by decide) (by decide)
  constructor
  · obtain ⟨found, found', hfound, hfound', hsame, hmem⟩ :=
      discover_relocated linkFree_guardedEntries (htree ⟨["py"], [], false, true⟩)
        (htree' ⟨["py"], [], false, true⟩)
    exact ⟨found, found', hfound, hfound',
      (hmem _).mpr ⟨by decide, ["a.py"], by decide, yields_guardedEntries false⟩,
      hsame.mpr (Or.inl (by decide))⟩
  · obtain ⟨found, found', hfound, hfound', hsame, hmem⟩ :=
      discover_relocated linkFree_guardedEntries (htree ⟨["py"], [], true, true⟩)
        (htree' ⟨["py"], [], true, true⟩)
    refine ⟨found, found', hfound, hfound',
      (hmem _).mpr ⟨by decide, ["a.py"], by decide, yields_guardedEntries true⟩, fun heq => ?_⟩
    rcases hsame.mp heq with hbars | hnone
    · exact absurd hbars (by decide)
    · exact hnone ["a.py"] (yields_guardedEntries true)

end CodeCatalog
