import CodeCatalog.Proofs.Files.Paths
import CodeCatalog.Proofs.Files.Writing

/-!
# Files that are there

What can be read at a path and is no directory can be opened for writing at it: the path has no
slash at its end, and the directory above it is there.

## Main results

* `CodeCatalog.FileSystem.Leads.writing` — a look-up for reading serves for writing.
* `CodeCatalog.FileSystem.Leads.filter_isMeaningful` — parts without meaning lead nowhere else.
* `CodeCatalog.FileSystem.hasParents_of_spot` — the directory of a file is there.
* `CodeCatalog.FileSystem.fileAt_of_entry` — a file that is there can be opened for writing.
-/

namespace CodeCatalog.FileSystem

variable {fs : FileSystem} {links : Nat} {place parts found : List String}

/-- Behind a name, the last part of a path is the last one of those behind it. -/
lemma IsName.getLast?_cons {writing : Bool} {part last : String} {rest : List String}
    (h : IsName writing part rest) (hlast : (part :: rest).getLast? = some last)
    (hpart : last = "" ∨ last = ".") : rest.getLast? = some last := by
  cases rest with
  | nil =>
    obtain rfl : part = last := by simpa using hlast
    exact absurd hpart h.notHere
  | cons => rwa [List.getLast?_cons_cons] at hlast

/-- A path with a slash or a dot at its end leads to a directory. -/
lemma Leads.dir_of_getLast? {writing : Bool} {last : String}
    (h : fs.Leads writing links place parts (.occupied found))
    (hlast : parts.getLast? = some last) (hpart : last = "" ∨ last = ".") :
    ∃ entries, fs.root.at? found = some (.dir entries) := by
  generalize hspot : Spot.occupied found = spot at h
  induction h with
  | done => cases hlast
  | @stay links place entries part rest spot hdir _ h ih =>
    cases rest with
    | nil =>
      subst hspot
      cases h
      exact ⟨entries, hdir⟩
    | cons => exact ih (by rwa [List.getLast?_cons_cons] at hlast) hspot
  | @up links place entries rest spot _ _ ih =>
    cases rest with
    | nil =>
      cases hlast
      exact absurd hpart (by decide)
    | cons => exact ih (by rwa [List.getLast?_cons_cons] at hlast) hspot
  | vacant => cases hspot
  | link _ hname _ _ ih =>
    refine ih ?_ hspot
    rw [List.getLast?_append, hname.getLast?_cons hlast hpart, Option.some_or]
  | enter _ hname _ _ _ ih => exact ih (hname.getLast?_cons hlast hpart) hspot

/-- A name without a slash behind it may be written. -/
lemma IsName.writing {part : String} {rest : List String} (h : IsName false part rest)
    (hrest : rest.getLast? ≠ some "") : IsName true part rest := by
  refine ⟨h.notHere, h.notUp, Bool.eq_false_iff.mpr fun hblank => hrest ?_, h.short⟩
  rcases rest.eq_nil_or_concat with rfl | ⟨blanks, last, rfl⟩
  · cases hblank
  · simp_all

/-- **What can be read at a path can be written at it**, if it is no directory. -/
lemma Leads.writing (h : fs.Leads false links place parts (.occupied found))
    (hfound : ∀ entries, fs.root.at? found ≠ some (.dir entries)) :
    fs.Leads true links place parts (.occupied found) := by
  -- only the path of a directory has a slash at its end
  have hslash : ∀ {links place parts}, fs.Leads false links place parts (.occupied found) →
      parts.getLast? ≠ some "" := by
    intro links place parts h hlast
    obtain ⟨entries, hdir⟩ := h.dir_of_getLast? hlast (Or.inl rfl)
    exact hfound entries hdir
  generalize hspot : Spot.occupied found = spot at h
  induction h with
  | done links place => exact .done links place
  | stay hdir hpart _ ih => exact .stay hdir hpart (ih hspot)
  | up hdir _ ih => exact .up hdir (ih hspot)
  | vacant => cases hspot
  | link hdir hname hlink h ih =>
    subst hspot
    refine .link hdir (hname.writing fun hlast => hslash h ?_) hlink (ih rfl)
    rw [List.getLast?_append, hlast, Option.some_or]
  | enter hdir hname he hlink h ih =>
    subst hspot
    exact .enter hdir (hname.writing (hslash h)) he hlink (ih rfl)

/-- What has parts to look up is a directory. -/
lemma Leads.dir_of_cons {writing : Bool} {part : String} {rest : List String} {spot : Spot}
    (h : fs.Leads writing links place (part :: rest) spot) :
    ∃ entries, fs.root.at? place = some (.dir entries) := by
  cases h with
  | stay hdir | up hdir | vacant hdir | link hdir | enter hdir => exact ⟨_, hdir⟩

/-- What stands before the last part of a path leads to a directory. -/
lemma Leads.front {front : List String} {last : String} {spot : Spot}
    (h : fs.Leads false links place (front ++ [last]) spot) :
    ∃ directory entries, fs.Leads false links place front (.occupied directory) ∧
      fs.root.at? directory = some (.dir entries) := by
  generalize hparts : front ++ [last] = parts at h
  induction h generalizing front with
  | done => simp at hparts
  | @stay _ place entries _ _ _ hdir hpart _ ih =>
    rcases List.append_eq_cons_iff.mp hparts with ⟨rfl, -⟩ | ⟨front, rfl, hrest⟩
    · exact ⟨place, entries, .done _ place, hdir⟩
    · obtain ⟨directory, entries', hleads, hdir'⟩ := ih hrest.symm
      exact ⟨directory, entries', .stay hdir hpart hleads, hdir'⟩
  | @up _ place entries _ _ hdir _ ih =>
    rcases List.append_eq_cons_iff.mp hparts with ⟨rfl, -⟩ | ⟨front, rfl, hrest⟩
    · exact ⟨place, entries, .done _ place, hdir⟩
    · obtain ⟨directory, entries', hleads, hdir'⟩ := ih hrest.symm
      exact ⟨directory, entries', .up hdir hleads, hdir'⟩
  | @vacant _ place entries _ hdir =>
    obtain ⟨rfl, -⟩ := List.append_eq_singleton_iff.mp hparts |>.resolve_right (by simp)
    exact ⟨place, entries, .done _ place, hdir⟩
  | @link _ place entries _ rest target _ hdir hname hlink _ ih =>
    rcases List.append_eq_cons_iff.mp hparts with ⟨rfl, -⟩ | ⟨front, rfl, hrest⟩
    · exact ⟨place, entries, .done _ place, hdir⟩
    · have hmore : Path.splitSlash target ++ front ++ [last] = Path.splitSlash target ++ rest := by
        rw [List.append_assoc, hrest]
      obtain ⟨directory, entries', hleads, hdir'⟩ := ih hmore
      exact ⟨directory, entries', .link hdir (hname.reading front) hlink hleads, hdir'⟩
  | @enter _ place entries _ _ _ _ hdir hname he hlink _ ih =>
    rcases List.append_eq_cons_iff.mp hparts with ⟨rfl, -⟩ | ⟨front, rfl, hrest⟩
    · exact ⟨place, entries, .done _ place, hdir⟩
    · obtain ⟨directory, entries', hleads, hdir'⟩ := ih hrest.symm
      exact ⟨directory, entries', .enter hdir (hname.reading front) he hlink hleads, hdir'⟩

/-- A name to look up means something. -/
lemma IsName.isMeaningful {writing : Bool} {part : String} {rest : List String}
    (h : IsName writing part rest) : Path.isMeaningful part = true := by
  simpa [Path.isMeaningful] using not_or.mp h.notHere

/-- **Parts that carry no meaning can be left out** behind the front of a path.

**Proof sketch.** Induction on the look-up. The front grows by the parts of links on the way, so
it is kept as it is. -/
lemma Leads.filter_isMeaningful {front rest : List String}
    (h : fs.Leads false links place (front ++ rest) (.occupied found)) :
    fs.Leads false links place (front ++ rest.filter Path.isMeaningful) (.occupied found) := by
  generalize hparts : front ++ rest = parts at h
  generalize hspot : Spot.occupied found = spot at h
  induction h generalizing front rest with
  | done links place =>
    obtain ⟨rfl, rfl⟩ := List.append_eq_nil_iff.mp hparts
    exact .done links place
  | stay hdir hpart _ ih =>
    rcases List.append_eq_cons_iff.mp hparts with ⟨rfl, rfl⟩ | ⟨front, rfl, hrest⟩
    · rw [List.nil_append, List.filter_cons_of_neg (by
        rcases hpart with rfl | rfl <;> decide)]
      exact ih (List.nil_append _) hspot
    · exact .stay hdir hpart (ih hrest.symm hspot)
  | up hdir _ ih =>
    rcases List.append_eq_cons_iff.mp hparts with ⟨rfl, rfl⟩ | ⟨front, rfl, hrest⟩
    · exact .up hdir (ih (List.nil_append _) hspot)
    · exact .up hdir (ih hrest.symm hspot)
  | vacant => cases hspot
  | @link _ _ _ _ more target _ hdir hname hlink _ ih =>
    rcases List.append_eq_cons_iff.mp hparts with ⟨rfl, rfl⟩ | ⟨front, rfl, hrest⟩
    · rw [List.nil_append, List.filter_cons_of_pos hname.isMeaningful]
      exact .link hdir (hname.reading _) hlink (ih rfl hspot)
    · have hmore : Path.splitSlash target ++ front ++ rest = Path.splitSlash target ++ more := by
        rw [List.append_assoc, hrest]
      have hleads := ih hmore hspot
      rw [List.append_assoc] at hleads
      exact .link hdir (hname.reading _) hlink hleads
  | enter hdir hname he hlink _ ih =>
    rcases List.append_eq_cons_iff.mp hparts with ⟨rfl, rfl⟩ | ⟨front, rfl, hrest⟩
    · rw [List.nil_append, List.filter_cons_of_pos hname.isMeaningful]
      exact .enter hdir (hname.reading _) he hlink (ih (List.nil_append _) hspot)
    · exact .enter hdir (hname.reading _) he hlink (ih hrest.symm hspot)

/-! ## The directory of a file -/

/-- A path has no fault if it is neither empty nor too long and has no character that ends names. -/
lemma pathFault?_eq_none_iff {path : String} : pathFault? path = none ↔
    '\x00' ∉ path.toList ∧ path ≠ "" ∧ path.utf8ByteSize ≤ maxPath := by
  rw [pathFault?]
  split_ifs with hnul hempty hlong <;> simp_all

/-- A path with fewer parts has no fault if the path has none. -/
lemma pathFault?_intercalate {path : String} {parts : List String} (h : pathFault? path = none)
    (hparts : parts.Sublist (Path.splitSlash path)) (hne : "/".intercalate parts ≠ "") :
    pathFault? ("/".intercalate parts) = none := by
  rw [pathFault?_eq_none_iff] at h ⊢
  obtain ⟨hnul, -, hlong⟩ := h
  refine ⟨fun hmem => hnul ?_, hne, Nat.le_trans ?_ hlong⟩
  · obtain ⟨part, hpart, hc⟩ := (Path.mem_intercalate_iff (by decide)).mp hmem
    rw [← Path.intercalate_splitSlash path, Path.mem_intercalate_iff (by decide)]
    exact ⟨part, hparts.subset hpart, hc⟩
  · have hsize := Path.utf8ByteSize_intercalate_le hparts
    rwa [Path.intercalate_splitSlash] at hsize

/-- The front of a path, without parts that carry no meaning, leads to where the front leads. -/
lemma spot_intercalate {path first name : String} {front directory : List String}
    (hfault : pathFault? path = none) (hsplit : Path.splitSlash path = first :: front ++ [name])
    (hleads : fs.Leads false maxLinks (fs.start path) (first :: front) (.occupied directory))
    (hfirst : ¬ (first = "" ∧ front.filter Path.isMeaningful = [])) :
    fs.spot false ("/".intercalate (first :: front.filter Path.isMeaningful)) =
      .ok (.occupied directory) := by
  set parts := first :: front.filter Path.isMeaningful with hparts
  have hsublist : parts.Sublist (Path.splitSlash path) := by
    rw [hsplit]
    exact (List.filter_sublist.cons_cons first).trans (List.sublist_append_left _ _)
  have hsplit' : Path.splitSlash ("/".intercalate parts) = parts :=
    Path.splitSlash_intercalate fun part hpart =>
      Path.not_mem_of_mem_splitSlash (hsublist.subset hpart)
  have habsolute : Path.isAbsolute ("/".intercalate parts) = Path.isAbsolute path := by
    rw [Bool.eq_iff_iff, Path.isAbsolute_iff hsplit', Path.isAbsolute_iff hsplit]
    exact ⟨fun h => ⟨h.1, by simp⟩, fun h => ⟨h.1, fun hnil => hfirst ⟨h.1, hnil⟩⟩⟩
  have hne : "/".intercalate parts ≠ "" := by
    intro hempty
    rw [hempty, hparts] at hsplit'
    obtain ⟨rfl, hnil⟩ := List.cons.inj hsplit'
    exact hfirst ⟨rfl, hnil.symm⟩
  rw [spot_eq_ok_iff, hsplit', start, habsolute]
  refine ⟨pathFault?_intercalate hfault hsublist hne, ?_⟩
  rw [← List.singleton_append] at hleads
  exact hleads.filter_isMeaningful

/-- A slash leads to the root. -/
lemma isDir_slash {entries : List (String × Entry)} (h : fs.root.at? [] = some (.dir entries)) :
    fs.isDir "/" = true := by
  refine isDir_iff.mpr ⟨[], entries, spot_eq_ok_iff.mpr ⟨by decide, ?_⟩, h⟩
  exact .stay h (Or.inl rfl) (.stay h (Or.inl rfl) (.done _ _))

/-- **The directory of a file is there.** -/
lemma hasParents_of_spot {path : String} (h : fs.spot false path = .ok (.occupied found))
    (hfound : ∀ entries, fs.root.at? found ≠ some (.dir entries)) : fs.HasParents path := by
  obtain ⟨hfault, hleads⟩ := spot_eq_ok_iff.mp h
  obtain ⟨front, name, hsplit⟩ :=
    (Path.splitSlash path).eq_nil_or_concat.resolve_left (Path.splitSlash_ne_nil path)
  rw [List.concat_eq_append] at hsplit
  have hname : Path.isMeaningful name = true := by
    by_contra hblank
    have hpart : name = "" ∨ name = "." := by
      simpa [Path.isMeaningful, or_iff_not_imp_left] using hblank
    obtain ⟨entries, hdir⟩ :=
      hleads.dir_of_getLast? (by rw [hsplit, List.getLast?_concat]) hpart
    exact hfound entries hdir
  rw [hsplit] at hleads
  obtain ⟨directory, entries, hfront, hdir⟩ := hleads.front
  intro parent hparent
  cases front with
  | nil =>
    rw [Path.parent?_of_name hname hsplit] at hparent
    exact Or.inl (Option.some.inj hparent).symm
  | cons first front =>
    rw [Path.parent?_of_front hname hsplit] at hparent
    obtain rfl := Option.some.inj hparent
    right
    split_ifs with hfirst
    · -- nothing but slashes and dots stands before the name, so the path begins at the root
      have hstart : fs.start path = [] := by
        rw [start, (Path.isAbsolute_iff hsplit).mpr ⟨hfirst.1, by simp⟩]
        rfl
      rw [hstart] at hfront
      obtain ⟨entries, hroot⟩ := hfront.dir_of_cons
      exact isDir_slash hroot
    · exact isDir_iff.mpr
        ⟨directory, entries, spot_intercalate hfault hsplit hfront hfirst, hdir⟩

/-- **A file that is there can be opened for writing**, and needs no new directories. -/
lemma fileAt_of_entry {path : String} {content : ByteArray}
    (h : fs.entry path = .ok (.file content)) :
    ∃ place, fs.FileAt path place content ∧ fs.HasParents path := by
  obtain ⟨place, hspot, hat⟩ := entry_eq_ok_iff.mp h
  have hfile : ∀ entries, fs.root.at? place ≠ some (.dir entries) := by
    intro entries
    rw [hat]
    nofun
  obtain ⟨hfault, hleads⟩ := spot_eq_ok_iff.mp hspot
  exact ⟨place, ⟨spot_eq_ok_iff.mpr ⟨hfault, hleads.writing hfile⟩, hat⟩,
    hasParents_of_spot hspot hfile⟩

end CodeCatalog.FileSystem
