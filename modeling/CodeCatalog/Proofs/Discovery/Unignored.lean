import CodeCatalog.Proofs.Discovery.Rules

/-!
# What ignore rules leave of a walk

A walk that minds ignore rules goes over the same tree as one that does not, and cuts off what the
rules ignore. What is left are the files to which no ignored entry leads, in the order in which
the other walk yields them.

## Main definitions

* `CodeCatalog.IgnoreRules.Spares`, `CodeCatalog.Entry.Spares` — whether rules, or the ignore files
  in a tree, ignore nothing on the way to an entry.
* `CodeCatalog.FileSystem.HasSparedFileBelow` — the paths of the files that are left.

## Main results

* `CodeCatalog.Found.filesOf_prune_sublist` — cutting branches off takes files away, and does
  nothing else.
* `CodeCatalog.Found.mem_filesOf_prune_iff` — which files are left.
* `CodeCatalog.FileSystem.hasSparedFileBelow_iff` — the tree alone says which are.
* `CodeCatalog.discover_unignored_sublist` — the two walks compared.
-/

namespace CodeCatalog

/-! ## The rules on the way to an entry -/

namespace IgnoreRules

variable (rulesIn : String → DirectoryRules)

/-- Whether rules ignore neither the entry to which names lead from a root nor any on the way. -/
def Spares (rules : IgnoreRules) (root : String) (e : Entry) (names : List String) : Prop :=
  ∀ before name after found, names = before ++ name :: after →
    e.at? (before ++ [name]) = some found →
    (rules.inside rulesIn root before).ignores (Path.below root (before ++ [name])) found.isDir =
      false

variable {rulesIn} {rules : IgnoreRules} {root : String}

/-- Rules spare the root. -/
lemma spares_nil (e : Entry) : rules.Spares rulesIn root e [] := by
  intro before name after found hnames
  simp at hnames

/-- An entry in a directory is spared if its first name is, and the rest of the way is. -/
lemma spares_cons_iff {entries : List (String × Entry)} {name : String} {inner : Entry}
    (hlookup : entries.lookup name = some inner) (names : List String) :
    rules.Spares rulesIn root (.dir entries) (name :: names) ↔
      (rules.enter (rulesIn root)).ignores (Path.join root name) inner.isDir = false ∧
        (rules.enter (rulesIn root)).Spares rulesIn (Path.join root name) inner names := by
  have hat : ∀ more, (Entry.dir entries).at? (name :: more) = inner.at? more := by
    intro more
    rw [Entry.at?_dir_cons, hlookup, Option.bind_some]
  constructor
  · intro h
    refine ⟨h [] name names inner rfl (by rw [List.nil_append, hat, Entry.at?_nil]), ?_⟩
    intro before next after found hnames hfound
    refine h (name :: before) next after found (by rw [hnames, List.cons_append]) ?_
    rw [List.cons_append, hat, hfound]
  · rintro ⟨hfirst, hrest⟩ before next after found hnames hfound
    cases before with
    | nil =>
      obtain ⟨rfl, -⟩ := List.cons.inj hnames
      rw [List.nil_append, hat, Entry.at?_nil] at hfound
      rw [← Option.some.inj hfound]
      exact hfirst
    | cons first before =>
      obtain ⟨rfl, hmore⟩ := List.cons.inj hnames
      rw [List.cons_append, hat] at hfound
      exact hrest before next after found hmore hfound

end IgnoreRules

/-- Whether a path leads from the path of an entry down to a file in it, or to a link that leads to
a file, past no entry that rules ignore. -/
def Entry.SparedFileBelow (fs : FileSystem) (rulesIn : String → DirectoryRules)
    (rules : IgnoreRules) (e : Entry) (root path : String) : Prop :=
  ∃ names found, e.at? names = some found ∧ path = Path.below root names ∧
    found.leadsToFile fs path = true ∧ rules.Spares rulesIn root e names

namespace Entry

variable {fs : FileSystem} {rulesIn : String → DirectoryRules} {rules : IgnoreRules}
  {root path : String}

/-- At what is no directory, the only file that can be spared is itself. -/
lemma sparedFileBelow_iff_of_ne_dir {e : Entry} (h : ∀ entries, e ≠ .dir entries) :
    e.SparedFileBelow fs rulesIn rules root path ↔
      path = root ∧ e.leadsToFile fs root = true := by
  rw [← fileBelow_iff_of_ne_dir h]
  constructor
  · rintro ⟨names, found, hat, hpath, hfile, -⟩
    exact ⟨names, found, hat, hpath, hfile⟩
  · rintro ⟨names, found, hat, hpath, hfile⟩
    refine ⟨names, found, hat, hpath, hfile, ?_⟩
    cases names with
    | nil => exact IgnoreRules.spares_nil e
    | cons name names =>
      obtain ⟨entries, -, rfl, -⟩ := exists_dir_of_at?_cons hat
      exact absurd rfl (h entries)

/-- The spared files in a directory are those in its entries that are not ignored. -/
lemma sparedFileBelow_dir_iff {entries : List (String × Entry)}
    (h : (entries.map (·.1)).Nodup) :
    (dir entries).SparedFileBelow fs rulesIn rules root path ↔
      ∃ entry ∈ entries,
        (rules.enter (rulesIn root)).ignores (Path.join root entry.1) entry.2.isDir = false ∧
        entry.2.SparedFileBelow fs rulesIn (rules.enter (rulesIn root)) (Path.join root entry.1)
          path := by
  constructor
  · rintro ⟨names, found, hat, hpath, hfile, hspares⟩
    cases names with
    | nil =>
      obtain rfl : dir entries = found := by simpa using hat
      cases hfile
    | cons name names =>
      obtain ⟨_, inner, hdir, hlookup, hinner⟩ := exists_dir_of_at?_cons hat
      obtain rfl := Entry.dir.inj hdir
      obtain ⟨hfirst, hrest⟩ := (IgnoreRules.spares_cons_iff hlookup names).mp hspares
      exact ⟨(name, inner), mem_of_lookup_eq_some hlookup, hfirst, names, found, hinner, hpath,
        hfile, hrest⟩
  · rintro ⟨⟨name, inner⟩, hmem, hfirst, names, found, hinner, hpath, hfile, hrest⟩
    have hlookup := (lookup_eq_some_iff_mem h).mpr hmem
    refine ⟨name :: names, found, ?_, hpath, hfile,
      (IgnoreRules.spares_cons_iff hlookup names).mpr ⟨hfirst, hrest⟩⟩
    rw [at?_dir_cons, hlookup, Option.bind_some, hinner]

end Entry

/-- Whether the ignore files in a tree ignore neither the entry to which names lead nor any on the
way. -/
def Entry.Spares (content : Entry) (names : List String) : Prop :=
  ∀ before name after found, names = before ++ name :: after →
    content.at? (before ++ [name]) = some found →
    content.verdict before name found.isDir ≠ .ignored

/-- An entry right below the root is spared if the rules of the root do not ignore it. -/
lemma Entry.spares_singleton_iff {content found : Entry} {name : String}
    (hat : content.at? [name] = some found) :
    content.Spares [name] ↔ content.verdict [] name found.isDir ≠ .ignored := by
  refine ⟨fun h => h [] name [] found rfl hat, ?_⟩
  rintro h before next after found' hnames hat'
  obtain ⟨rfl, hnext⟩ : before = [] ∧ [name] = next :: after := by
    cases before with
    | nil => exact ⟨rfl, hnames⟩
    | cons first before => simp at hnames
  obtain ⟨rfl, -⟩ := List.cons.inj hnext
  obtain rfl := Option.some.inj (hat.symm.trans hat')
  exact h

/-- In a tree without links, only files lead to files. -/
lemma Entry.LinkFree.eq_file_of_leadsToFile {content found : Entry} (h : content.LinkFree)
    {fs : FileSystem} {path : String} {names : List String} (hat : content.at? names = some found)
    (hfile : found.leadsToFile fs path = true) : ∃ bytes, found = .file bytes := by
  cases found with
  | file bytes => exact ⟨bytes, rfl⟩
  | link target => exact absurd hat (h names target)
  | _ => cases hfile

/-! ## Cutting branches off -/

namespace Found

variable (rulesIn : String → DirectoryRules)

/-- The files of trees and more trees are those of both. -/
lemma filesOf_append (xs ys : List Found) : filesOf (xs ++ ys) = filesOf xs ++ filesOf ys := by
  simp only [filesOf_eq_flatMap, List.flatMap_append]

mutual

/-- **Cutting branches off takes files away, and does nothing else.** -/
lemma filesOf_prune_sublist (rules : IgnoreRules) :
    ∀ f : Found, (filesOf (prune rulesIn rules f)).Sublist f.files
  | .leaf path isFile => by
    rw [prune]
    split
    · exact List.nil_sublist _
    · simp [filesOf]
  | .branch path inside => by
    rw [prune]
    split
    · exact List.nil_sublist _
    · simpa [filesOf, files] using
        filesOf_pruneAll_sublist (rules.enter (rulesIn path)) inside
  | .failure fault => by simp [prune, filesOf]

/-- Ignoring leaves some of the files of trees, in order. -/
lemma filesOf_pruneAll_sublist (rules : IgnoreRules) :
    ∀ found : List Found, (filesOf (pruneAll rulesIn rules found)).Sublist (filesOf found)
  | [] => by simp [pruneAll]
  | f :: found => by
    rw [pruneAll, filesOf_append, filesOf]
    exact (filesOf_prune_sublist rules f).append (filesOf_pruneAll_sublist rules found)

end

/-- Ignoring inside the root of a walk leaves some of its files, in order. -/
lemma files_pruneInside_sublist (rules : IgnoreRules) (f : Found) :
    (f.pruneInside rulesIn rules).files.Sublist f.files := by
  cases f with
  | branch path inside => exact filesOf_pruneAll_sublist rulesIn (rules.enter (rulesIn path)) inside
  | leaf path isFile => exact List.Sublist.refl _
  | failure fault => exact List.Sublist.refl _

/-- The files left of some trees are those left of one of them. -/
lemma mem_filesOf_pruneAll_iff {rules : IgnoreRules} {found : List Found}
    {answer : Except WalkFault String} :
    answer ∈ filesOf (pruneAll rulesIn rules found) ↔
      ∃ f ∈ found, answer ∈ filesOf (prune rulesIn rules f) := by
  induction found with
  | nil => simp [pruneAll, filesOf]
  | cons f found ih => rw [pruneAll, filesOf_append, List.mem_append, ih, List.exists_mem_cons_iff]

/-- What is left inside a directory is what is left of its entries. -/
lemma mem_filesOf_pruneAll_sorted_iff {fs : FileSystem} {trail : Trail} {path : String}
    {place : List String} {entries : List (String × Entry)} {rules : IgnoreRules}
    {answer : Except WalkFault String} :
    answer ∈ filesOf (pruneAll rulesIn rules
        (((lookInside (stay fs) trail path place entries).mergeSort nameLe).map (·.2))) ↔
      ∃ entry ∈ entries, answer ∈ filesOf (prune rulesIn rules
        (lookAt (stay fs) trail (Path.join path entry.1) (place ++ [entry.1]) entry.2)) := by
  rw [mem_filesOf_pruneAll_iff]
  constructor
  · rintro ⟨f, hf, hanswer⟩
    obtain ⟨named, hnamed, rfl⟩ := List.mem_map.mp hf
    obtain ⟨entry, hentry, rfl⟩ := mem_sorted_lookInside.mp hnamed
    exact ⟨entry, hentry, hanswer⟩
  · rintro ⟨entry, hentry, hanswer⟩
    exact ⟨_, List.mem_map_of_mem (mem_sorted_lookInside.mpr ⟨entry, hentry, rfl⟩), hanswer⟩

/-- **Which files are left** of a tree: those to which no ignored entry leads.

**Proof sketch.** Induction on the tree. A directory that is not ignored leaves what its entries
leave under the rules that hold inside it. -/
lemma mem_filesOf_prune_iff (fs : FileSystem) {e : Entry} (h : e.Proper) (rules : IgnoreRules)
    (trail : Trail) (path : String) (place : List String) (answer : Except WalkFault String) :
    answer ∈ filesOf (prune rulesIn rules (lookAt (stay fs) trail path place e)) ↔
      rules.ignores path e.isDir = false ∧
        ∃ p, answer = .ok p ∧ e.SparedFileBelow fs rulesIn rules path p := by
  induction h generalizing rules trail path place with
  | file content =>
    rw [lookAt, prune]
    split
    · simp_all [filesOf, Entry.isDir]
    · simp_all [filesOf, files, Entry.isDir, Entry.sparedFileBelow_iff_of_ne_dir,
        Entry.leadsToFile]
  | link target =>
    rw [lookAt, stay, prune]
    split
    · simp_all [filesOf, Entry.isDir]
    · simp_all [filesOf, files, Entry.isDir, Entry.sparedFileBelow_iff_of_ne_dir,
        Entry.leadsToFile, and_comm]
  | fullDevice =>
    rw [lookAt, prune]
    split
    · simp_all [filesOf, Entry.isDir]
    · simp_all [filesOf, files, Entry.isDir, Entry.sparedFileBelow_iff_of_ne_dir,
        Entry.leadsToFile]
  | @dir entries names distinct inside ih =>
    rw [lookAt, prune]
    split
    · simp_all [filesOf, Entry.isDir]
    · rename_i hkept
      have hkept : rules.ignores path (Entry.dir entries).isDir = false :=
        Bool.eq_false_iff.mpr hkept
      rw [filesOf, files, filesOf, List.append_nil, mem_filesOf_pruneAll_sorted_iff, hkept]
      constructor
      · rintro ⟨entry, hentry, hanswer⟩
        obtain ⟨hfirst, p, hp, hfile⟩ := (ih entry hentry _ _ _ _).mp hanswer
        exact ⟨rfl, p, hp, (Entry.sparedFileBelow_dir_iff distinct).mpr
          ⟨entry, hentry, hfirst, hfile⟩⟩
      · rintro ⟨-, p, hp, hfile⟩
        obtain ⟨entry, hentry, hfirst, hfile⟩ :=
          (Entry.sparedFileBelow_dir_iff distinct).mp hfile
        exact ⟨entry, hentry, (ih entry hentry _ _ _ _).mpr ⟨hfirst, p, hp, hfile⟩⟩

/-- The root of a walk is never ignored. -/
lemma mem_files_pruneInside_iff (fs : FileSystem) {entries : List (String × Entry)}
    (h : (Entry.dir entries).Proper) (rules : IgnoreRules) (trail : Trail) (path : String)
    (place : List String) (answer : Except WalkFault String) :
    answer ∈ ((lookAt (stay fs) trail path place (.dir entries)).pruneInside rulesIn rules).files ↔
      ∃ p, answer = .ok p ∧ (Entry.dir entries).SparedFileBelow fs rulesIn rules path p := by
  cases h with
  | dir names distinct inside =>
    rw [lookAt, pruneInside, files, mem_filesOf_pruneAll_sorted_iff]
    constructor
    · rintro ⟨entry, hentry, hanswer⟩
      obtain ⟨hfirst, p, hp, hfile⟩ :=
        (mem_filesOf_prune_iff rulesIn fs (inside entry hentry) _ _ _ _ _).mp hanswer
      exact ⟨p, hp, (Entry.sparedFileBelow_dir_iff distinct).mpr ⟨entry, hentry, hfirst, hfile⟩⟩
    · rintro ⟨p, hp, hfile⟩
      obtain ⟨entry, hentry, hfirst, hfile⟩ := (Entry.sparedFileBelow_dir_iff distinct).mp hfile
      exact ⟨entry, hentry, (mem_filesOf_prune_iff rulesIn fs (inside entry hentry) _ _ _ _ _).mpr
        ⟨hfirst, p, hp, hfile⟩⟩

end Found

/-! ## Source files that no rule ignores -/

namespace FileSystem

/-- Whether a path leads from a root down to a file, or to a link that leads to a file, past no
entry that an ignore rule leaves out. -/
def HasSparedFileBelow (fs : FileSystem) (env : Environment) (root path : String) : Prop :=
  ∃ place e, fs.resolve root = .ok place ∧ fs.root.at? place = some e ∧
    e.SparedFileBelow fs (DirectoryRules.load fs) (IgnoreRules.above fs env root) root path

/-- Whether ignore rules leave out no entry below a root. -/
def NoneIgnored (fs : FileSystem) (env : Environment) (root : String) : Prop :=
  ∀ place names name found, fs.resolve root = .ok place →
    fs.root.at? (place ++ (names ++ [name])) = some found →
    ((IgnoreRules.above fs env root).inside (DirectoryRules.load fs) root names).ignores
      (Path.below root (names ++ [name])) found.isDir = false

variable {fs : FileSystem} {env : Environment} {root path : String}

/-- A file that is spared is a file below the root. -/
lemma HasSparedFileBelow.hasFileBelow (h : fs.HasSparedFileBelow env root path) :
    fs.HasFileBelow root path := by
  obtain ⟨place, e, hplace, he, names, found, hat, hpath, hfile, -⟩ := h
  exact (hasFileBelow_iff hplace he).mpr ⟨names, found, hat, hpath, hfile⟩

/-- Where nothing is ignored, every file is spared. -/
lemma NoneIgnored.hasSparedFileBelow (h : fs.NoneIgnored env root)
    (hfile : fs.HasFileBelow root path) : fs.HasSparedFileBelow env root path := by
  obtain ⟨place, names, found, hplace, hat, hpath, hleads⟩ := hfile
  rw [Entry.at?_append, Option.bind_eq_some_iff] at hat
  obtain ⟨e, he, hfound⟩ := hat
  refine ⟨place, e, hplace, he, names, found, hfound, hpath, hleads, ?_⟩
  intro before name after entry hnames hentry
  exact h place before name entry hplace (by rw [Entry.at?_append, he, Option.bind_some, hentry])

/-- In a tree without links, which files are left is said by the tree alone, where no ignore file
outside it says anything about it. -/
lemma hasSparedFileBelow_iff {content : Entry} (h : fs.HasTree root content)
    (hlinks : content.LinkFree) (hproper : content.Proper) (hroot : ¬ Path.DotsTwice root)
    (houtside : fs.Undisturbed env root content) :
    fs.HasSparedFileBelow env root path ↔ ∃ names bytes, content.at? names = some (.file bytes) ∧
      path = Path.below root names ∧ content.Spares names := by
  obtain ⟨place, hspot, hplace⟩ := entry_eq_ok_iff.mp h.entry
  rw [← resolve_eq_ok_iff] at hspot
  -- the rules of the walk and the files in the tree say the same on every way
  have hspares : ∀ names, (IgnoreRules.above fs env root).Spares (DirectoryRules.load fs) root
      content names ↔ content.Spares names := by
    intro names
    refine forall₄_congr fun before name after found => forall₂_congr fun _ hat => ?_
    rw [IgnoreRules.ignores, IgnoreRules.verdict_inside h hlinks hroot houtside
      (hproper.at? hat).1 hat, Verdict.beq_ignored_eq_false_iff]
  constructor
  · rintro ⟨place', e, hplace', he, names, found, hat, hpath, hfile, hspared⟩
    obtain rfl : place = place' := Except.ok.inj (hspot.symm.trans hplace')
    obtain rfl : content = e := Option.some.inj (hplace.symm.trans he)
    obtain ⟨bytes, rfl⟩ := hlinks.eq_file_of_leadsToFile hat hfile
    exact ⟨names, bytes, hat, hpath, (hspares names).mp hspared⟩
  · rintro ⟨names, bytes, hat, hpath, hspared⟩
    exact ⟨place, content, hspot, hplace, names, .file bytes, hat, hpath, rfl,
      (hspares names).mpr hspared⟩

end FileSystem

section Discover

variable {fs : FileSystem} {options : DiscoveryOptions} {root : String}

/-- What is left of a walk from a directory. -/
lemma exists_files_lookUnignored (env : Environment) (hproper : fs.root.Proper)
    (hroot : fs.isDir root = true) :
    ∃ paths : List String, (lookUnignored fs env false root).files = paths.map .ok ∧
      (∀ path, path ∈ paths ↔ isStandardInput root = false ∧ fs.HasSparedFileBelow env root path) ∧
      paths.Pairwise Path.Precedes := by
  by_cases hinput : isStandardInput root = true
  · refine ⟨[], ?_, ?_, .nil⟩
    · simp [lookUnignored, hinput, Found.files]
    · simp [hinput]
  · obtain ⟨place, entries, hspot, hdir⟩ := FileSystem.isDir_iff.mp hroot
    have hplace := FileSystem.resolve_eq_ok_iff.mpr hspot
    have hlook : Found.look fs false root =
        Found.lookAt (Found.stay fs) [] root place (.dir entries) := by
      simp only [Found.look, hplace, hdir]
      rfl
    have hmem := Found.mem_files_pruneInside_iff (DirectoryRules.load fs) fs
      (hproper.at? hdir).2 (IgnoreRules.above fs env root) [] root place
    obtain ⟨all, hall, -, hsorted⟩ := exists_files_look hproper hroot
    have hsublist := Found.files_pruneInside_sublist (DirectoryRules.load fs)
      (IgnoreRules.above fs env root) (Found.look fs false root)
    rw [hall] at hsublist
    obtain ⟨paths, hpaths, hfiles⟩ := List.sublist_map_iff.mp hsublist
    have hunignored : (lookUnignored fs env false root).files = paths.map .ok := by
      rw [lookUnignored, if_neg hinput, hfiles]
    refine ⟨paths, hunignored, fun path => ?_, hsorted.sublist hpaths⟩
    have hpath := hmem (.ok path)
    rw [← hlook, hfiles] at hpath
    simp only [List.mem_map, Except.ok.injEq, exists_eq_right, exists_eq_left'] at hpath
    rw [hpath]
    constructor
    · intro hfile
      exact ⟨Bool.eq_false_iff.mpr hinput, place, _, hplace, hdir, hfile⟩
    · rintro ⟨-, place', e, hplace', he, hfile⟩
      obtain rfl : place = place' := Except.ok.inj (hplace.symm.trans hplace')
      obtain rfl : Entry.dir entries = e := Option.some.inj (hdir.symm.trans he)
      exact hfile

/-- The source files below a directory that no rule ignores, in their order. -/
lemma exists_discover_unignored (env : Environment) (hproper : fs.root.Proper)
    (hfollow : options.followLinks = false) (hgit : options.respectGitignore = true)
    (hroot : fs.isDir root = true) :
    ∃ paths : List String, discover fs env options root = .ok (paths.map .ok) ∧
      (∀ path, path ∈ paths ↔
        (isStandardInput root = false ∧ fs.HasSparedFileBelow env root path) ∧
          inGitDirectory path = false ∧ options.accepts root path = true) ∧
      paths.Pairwise Path.Precedes := by
  obtain ⟨paths, hfiles, hmem, hsorted⟩ := exists_files_lookUnignored env hproper hroot
  set kept := fun path => !inGitDirectory path && options.accepts root path with hkept
  have hwalk : walkUnignored fs env options root = (paths.filter kept).map .ok := by
    rw [walkUnignored, hfollow, hfiles, List.filterMap_map, ← List.filterMap_eq_filter,
      List.map_filterMap]
    congr 1
    funext path
    by_cases hpath : kept path = true
    · simp_all [Option.guard]
    · simp_all [Option.guard]
  refine ⟨paths.filter kept, ?_, fun path => ?_, hsorted.filter _⟩
  · simp [discover, FileSystem.exists?_of_isDir hroot, hroot, hgit, hwalk]
  · rw [List.mem_filter, hmem]
    simp [hkept]

/-- Options with ignore rules minded or not. -/
def DiscoveryOptions.withGitignore (options : DiscoveryOptions) (on : Bool) : DiscoveryOptions :=
  { options with respectGitignore := on }

/-- **What ignore rules leave of a walk.** Where no links are followed, the walk that minds ignore
rules and the one that does not meet no faults. The files that the first one yields are a
subsequence of those of the second, without repetition and with no path through a `.git`
directory. If rules leave out no entry and no path of the second leads through such a directory,
then the two yield the same; `-` stands for the standard input and is not walked under this name
by the first one. A file of the second walk is missing in the first one only for these reasons.

**Proof sketch.** The files that are left are known (`Found.mem_files_pruneInside_iff`) and in the
order of the walk, since cutting branches off only takes files away
(`Found.filesOf_prune_sublist`). Lists in that order are known by their members. -/
theorem discover_unignored_sublist (env : Environment) (options : DiscoveryOptions)
    (hproper : fs.root.Proper) (hfollow : options.followLinks = false)
    (hroot : fs.isDir root = true) :
    ∃ kept all : List String,
      discover fs env (options.withGitignore true) root = .ok (kept.map .ok) ∧
      discover fs env (options.withGitignore false) root = .ok (all.map .ok) ∧
      kept.Sublist all ∧ kept.Nodup ∧ (∀ path ∈ kept, ".git" ∉ Path.components path) ∧
      (isStandardInput root = false → fs.NoneIgnored env root →
        (∀ path ∈ all, ".git" ∉ Path.components path) → kept = all) ∧
      ∀ path ∈ all, path ∈ kept ↔ isStandardInput root = false ∧
        fs.HasSparedFileBelow env root path ∧ ".git" ∉ Path.components path := by
  obtain ⟨kept, hkept, hmemKept, hsortedKept⟩ :=
    exists_discover_unignored env hproper
      (show (options.withGitignore true).followLinks = false from hfollow) rfl hroot
  obtain ⟨all, hall, hmemAll, hsortedAll⟩ :=
    exists_discover env hproper
      (show (options.withGitignore false).followLinks = false from hfollow) rfl hroot
  have hgit : ∀ path, inGitDirectory path = false ↔ ".git" ∉ Path.components path := by
    intro path
    simp [inGitDirectory]
  have haccepts : (options.withGitignore true).accepts root =
      (options.withGitignore false).accepts root := rfl
  have hmissing : ∀ path ∈ all, path ∈ kept ↔ isStandardInput root = false ∧
      fs.HasSparedFileBelow env root path ∧ ".git" ∉ Path.components path := by
    intro path hpath
    rw [hmemKept, haccepts, hgit, and_assoc]
    simp only [((hmemAll path).mp hpath).2, and_true]
  have hsubset : kept ⊆ all := by
    intro path hpath
    obtain ⟨⟨-, hspared⟩, -, haccepted⟩ := (hmemKept path).mp hpath
    exact (hmemAll path).mpr ⟨hspared.hasFileBelow, haccepted⟩
  refine ⟨kept, all, hkept, hall, ?_, hsortedKept.nodup, ?_, ?_, hmissing⟩
  · exact List.sublist_of_subperm_of_pairwise (List.subperm_of_subset hsortedKept.nodup hsubset)
      hsortedKept hsortedAll
  · intro path hpath
    exact (hgit path).mp ((hmemKept path).mp hpath).2.1
  · intro hinput hnone hnoGit
    refine hsortedKept.eq_of_mem_iff hsortedAll fun path => ⟨fun hpath => hsubset hpath, ?_⟩
    intro hpath
    have hfile := ((hmemAll path).mp hpath).1
    exact (hmissing path hpath).mpr ⟨hinput, hnone.hasSparedFileBelow hfile, hnoGit path hpath⟩

/-- A directory of the version control, an ignore file, the file that it names and another one. -/
def guardedEntries : List (String × Entry) :=
  [(".git", .dir [("c.py", .file .empty)]), (".gitignore", .file "b.py\n".toUTF8),
    ("a.py", .file .empty), ("b.py", .file .empty)]

/-- The names in the directory are in order. -/
lemma proper_guardedEntries : (Entry.dir guardedEntries).Proper := by
  refine .dir (by decide) (by decide) ?_
  simp only [guardedEntries, List.forall_mem_cons, List.not_mem_nil, false_imp_iff, implies_true,
    and_true]
  exact ⟨.dir (by decide) (by decide) (by simp [Entry.Proper.file]), .file _, .file _, .file _⟩

/-- The ways to the entries of this directory. -/
def guardedPlaces : List (List String) :=
  [[], [".git"], [".git", "c.py"], [".gitignore"], ["a.py"], ["b.py"]]

/-- What stands in the directory, and that it is no link. -/
lemma mem_guardedPlaces {names : List String} {found : Entry}
    (h : (Entry.dir guardedEntries).at? names = some found) :
    names ∈ guardedPlaces ∧ ∀ target, found ≠ .link target := by
  rcases Entry.at?_dir_eq_some h with ⟨rfl, rfl⟩ | ⟨entry, hentry, rest, rfl, hrest⟩
  · exact ⟨by decide, nofun⟩
  · simp only [guardedEntries, List.mem_cons, List.not_mem_nil, or_false] at hentry
    rcases hentry with rfl | rfl | rfl | rfl
    · rcases Entry.at?_dir_eq_some hrest with ⟨rfl, rfl⟩ | ⟨inner, hinner, more, rfl, hmore⟩
      · exact ⟨by decide, nofun⟩
      · obtain rfl := List.mem_singleton.mp hinner
        obtain ⟨rfl, rfl⟩ := Entry.at?_file_eq_some hmore
        exact ⟨by decide, nofun⟩
    all_goals
      obtain ⟨rfl, rfl⟩ := Entry.at?_file_eq_some hrest
      exact ⟨by decide, nofun⟩

/-- There are no links in the guarded directory. -/
lemma linkFree_guardedEntries : (Entry.dir guardedEntries).LinkFree := by
  intro names target hat
  exact (mem_guardedPlaces hat).2 target rfl

/-- A file system with nothing but this directory. -/
def guardedFiles : FileSystem := ⟨.dir guardedEntries, []⟩

/-- A dot leads to it. -/
lemma resolve_guardedFiles : guardedFiles.resolve "." = .ok [] := by
  rw [FileSystem.resolve_eq_ok_iff, FileSystem.spot_eq_ok_iff]
  exact ⟨by decide, .stay rfl (Or.inr rfl) (.done _ _)⟩

/-- The guarded directory is found under every short path that leads to it. -/
lemma hasTree_guardedFiles {root : String} (hresolve : guardedFiles.resolve root = .ok [])
    (hfault : ∀ names ∈ guardedPlaces, FileSystem.pathFault? (Path.below root names) = none) :
    guardedFiles.HasTree root (.dir guardedEntries) := by
  have hnames : ∀ names ∈ guardedPlaces,
      ∀ name ∈ names, Path.IsFileName name ∧ name.utf8ByteSize ≤ FileSystem.maxName := by decide
  refine FileSystem.hasTree_of_entry ?_ linkFree_guardedEntries
    (fun names found hat => hnames names (mem_guardedPlaces hat).1)
    (fun names found hat => hfault names (mem_guardedPlaces hat).1)
  exact FileSystem.entry_eq_ok_iff.mpr ⟨[], FileSystem.resolve_eq_ok_iff.mp hresolve, rfl⟩

/-- The directory of the version control is no file. -/
lemma noGitFile_guardedEntries (front : List String) (bytes : ByteArray) :
    (Entry.dir guardedEntries).at? (front ++ [".git"]) ≠ some (.file bytes) := by
  intro hat
  have hplace : ∀ names ∈ guardedPlaces, names.getLast? = some ".git" → names = [".git"] := by
    decide
  rw [hplace _ (mem_guardedPlaces hat).1 List.getLast?_concat] at hat
  cases hat

/-- There is nothing outside of the guarded directory. -/
lemma undisturbed_guardedFiles {root : String} (hresolve : guardedFiles.resolve root = .ok [])
    (htree : guardedFiles.HasTree root (.dir guardedEntries)) :
    guardedFiles.Undisturbed ⟨[]⟩ root (.dir guardedEntries) := by
  have habove : Path.above (FileSystem.absolutePath []) = [] := by decide +kernel
  refine FileSystem.undisturbed_of_noRules htree linkFree_guardedEntries proper_guardedEntries
    noGitFile_guardedEntries ?_ ?_
  · simp [IgnoreRules.above, hresolve, habove]
  · simp only [IgnoreRules.above, hresolve]
    rfl

/-- The ignore file decides about the two files beside it. -/
lemma hasSparedFileBelow_guardedFiles_iff (name : String) (hname : name ∈ ["a.py", "b.py"]) :
    guardedFiles.HasSparedFileBelow ⟨[]⟩ "." (Path.below "." [name]) ↔ name = "a.py" := by
  have hplaces : ∀ name ∈ ["a.py", "b.py"], ∀ names ∈ guardedPlaces,
      Path.below "." [name] = Path.below "." names → names = [name] := by decide
  have hat : ∀ name ∈ ["a.py", "b.py"],
      (Entry.dir guardedEntries).at? [name] = some (.file .empty) := by
    simp only [List.forall_mem_cons, List.not_mem_nil, false_imp_iff, implies_true, and_true]
    exact ⟨rfl, rfl⟩
  have hverdict : ∀ name ∈ ["a.py", "b.py"],
      (Entry.dir guardedEntries).verdict [] name false ≠ .ignored ↔ name = "a.py" := by
    decide +kernel
  have hspares : (Entry.dir guardedEntries).Spares [name] ↔ name = "a.py" :=
    (Entry.spares_singleton_iff (hat name hname)).trans (hverdict name hname)
  have htree := hasTree_guardedFiles resolve_guardedFiles (by decide)
  rw [FileSystem.hasSparedFileBelow_iff htree linkFree_guardedEntries proper_guardedEntries
    (by decide) (undisturbed_guardedFiles resolve_guardedFiles htree), ← hspares]
  constructor
  · rintro ⟨names, bytes, hfile, hpath, hspared⟩
    rwa [← hplaces name hname names (mem_guardedPlaces hfile).1 hpath]
  · intro hspared
    exact ⟨[name], .empty, hat name hname, rfl, hspared⟩

/-- Of three source files in such a directory, one is left by a walk that minds ignore rules. -/
theorem discover_guardedFiles :
    ∃ kept all : List String,
      discover guardedFiles ⟨[]⟩ ⟨["py"], [], true, false⟩ "." = .ok (kept.map .ok) ∧
      discover guardedFiles ⟨[]⟩ ⟨["py"], [], false, false⟩ "." = .ok (all.map .ok) ∧
      kept.Sublist all ∧ kept.Nodup ∧ "./a.py" ∈ kept ∧
      "./b.py" ∈ all ∧ "./b.py" ∉ kept ∧ "./.git/c.py" ∈ all ∧ "./.git/c.py" ∉ kept := by
  have hroot : guardedFiles.isDir "." = true := FileSystem.isDir_iff.mpr
    ⟨[], guardedEntries, FileSystem.resolve_eq_ok_iff.mp resolve_guardedFiles, rfl⟩
  obtain ⟨kept, all, hkept, hall, hsublist, hnodup, hnoGit, -, hmissing⟩ :=
    discover_unignored_sublist ⟨[]⟩ ⟨["py"], [], false, false⟩ proper_guardedEntries rfl hroot
  have hfound : ∀ names ∈ [["a.py"], ["b.py"], [".git", "c.py"]], Path.below "." names ∈ all := by
    obtain ⟨paths, hpaths, hmem, -⟩ := exists_discover ⟨[]⟩ proper_guardedEntries
      (show (⟨["py"], [], false, false⟩ : DiscoveryOptions).followLinks = false from rfl) rfl hroot
    have hsame : (all.map .ok : List (Except DiscoveryError String)) = paths.map .ok :=
      Except.ok.inj (hall.symm.trans hpaths)
    obtain rfl : all = paths := List.map_injective_iff.mpr (fun _ _ => Except.ok.inj) hsame
    have haccepts : ∀ names ∈ [["a.py"], ["b.py"], [".git", "c.py"]],
        DiscoveryOptions.accepts ⟨["py"], [], false, false⟩ "." (Path.below "." names) = true := by
      decide +kernel
    have hat : ∀ names ∈ [["a.py"], ["b.py"], [".git", "c.py"]],
        guardedFiles.root.at? names = some (.file .empty) := by
      simp only [List.forall_mem_cons, List.not_mem_nil, false_imp_iff, implies_true, and_true]
      exact ⟨rfl, rfl, rfl⟩
    intro names hnames
    exact (hmem _).mpr ⟨⟨[], names, .file .empty, resolve_guardedFiles, hat names hnames, rfl, rfl⟩,
      haccepts names hnames⟩
  have ha : "./a.py" ∈ all := hfound ["a.py"] (by decide)
  have hb : "./b.py" ∈ all := hfound ["b.py"] (by decide)
  refine ⟨kept, all, hkept, hall, hsublist, hnodup, ?_, hb, ?_, hfound [".git", "c.py"] (by decide),
    ?_⟩
  · exact (hmissing _ ha).mpr ⟨by decide,
      (hasSparedFileBelow_guardedFiles_iff "a.py" (by decide)).mpr rfl, by decide⟩
  · intro hmem
    have hspared := ((hmissing _ hb).mp hmem).2.1
    exact absurd ((hasSparedFileBelow_guardedFiles_iff "b.py" (by decide)).mp hspared) (by decide)
  · intro hmem
    exact hnoGit _ hmem (by decide)

end Discover

end CodeCatalog
