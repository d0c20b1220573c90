import Mathlib.Tactic.Lemma
import Mathlib.Tactic.SplitIfs
import CodeCatalog.Files.System

/-!
# Looking up paths in a file system that changes

Where a path leads depends on the directories and links on the way, not on the content of files.
A change that keeps these keeps every look-up that found something, and a file that is put where
a path ended at a free name is found by the same path.

## Main definitions

* `CodeCatalog.Entry.shape` — what a look-up can tell about an entry.
* `CodeCatalog.FileSystem.Keeps` — a later file system in which everything is still there, with
  its shape.
* `CodeCatalog.FileSystem.Leads` — the look-up of a path as a relation.

## Main results

* `CodeCatalog.Entry.at?_put` — what is put at a place is there.
* `CodeCatalog.FileSystem.keeps_put` — putting something new, or a file over a file, keeps the
  rest.
* `CodeCatalog.FileSystem.follow_eq_ok_iff` — the look-up and the relation.
* `CodeCatalog.FileSystem.Leads.of_keeps`, `Leads.fill` — look-ups after a change.
-/

namespace CodeCatalog

/-! ## Trees of entries -/

namespace Entry

/-- What a look-up can tell about an entry. -/
inductive Shape where
  | dir
  | link (target : String)
  | other
deriving DecidableEq

/-- The shape of an entry. -/
def shape : Entry → Shape
  | .dir _ => .dir
  | .link target => .link target
  | _ => .other

/-- What has the shape of a directory is one. -/
lemma exists_eq_dir_of_shape {e : Entry} (h : e.shape = .dir) : ∃ entries, e = .dir entries := by
  cases e with
  | dir entries => exact ⟨entries, rfl⟩
  | _ => cases h

/-- What has the shape of a link is that link. -/
lemma eq_link_of_shape {e : Entry} {target : String} (h : e.shape = .link target) :
    e = .link target := by
  cases e with
  | link t => cases h; rfl
  | _ => cases h

/-- Without names an entry is found itself. -/
@[simp] lemma at?_nil (e : Entry) : e.at? [] = some e := by
  unfold at?
  rfl

/-- In a directory the first name is looked up, then the others. -/
lemma at?_dir_cons (entries : List (String × Entry)) (name : String) (names : List String) :
    (dir entries).at? (name :: names) = (entries.lookup name).bind (·.at? names) := by
  rw [at?]
  cases entries.lookup name <;> rfl

/-- Only below directories there is something. -/
lemma exists_dir_of_at?_cons {e e' : Entry} {name : String} {names : List String}
    (h : e.at? (name :: names) = some e') :
    ∃ entries inner, e = .dir entries ∧ entries.lookup name = some inner ∧
      inner.at? names = some e' := by
  cases e with
  | dir entries =>
    rw [at?_dir_cons, Option.bind_eq_some_iff] at h
    obtain ⟨inner, hlookup, hinner⟩ := h
    exact ⟨entries, inner, rfl, hlookup, hinner⟩
  | _ => simp [at?] at h

/-- What is reached by names one after the other. -/
lemma at?_append (e : Entry) (p q : List String) : e.at? (p ++ q) = (e.at? p).bind (·.at? q) := by
  induction p generalizing e with
  | nil => simp
  | cons name p ih =>
    cases e with
    | dir entries =>
      rw [List.cons_append, at?_dir_cons, at?_dir_cons, Option.bind_assoc]
      congr 1
      funext inner
      exact ih inner
    | _ => simp [at?]

/-- What a name in a directory stands for. -/
lemma at?_concat {e : Entry} {place : List String} {entries : List (String × Entry)}
    (h : e.at? place = some (.dir entries)) (name : String) :
    e.at? (place ++ [name]) = entries.lookup name := by
  rw [at?_append, h, Option.bind_some, at?_dir_cons]
  cases entries.lookup name <;> simp

/-- A name with a new meaning has it, and all others keep theirs. -/
lemma lookup_setName (name other : String) (new : Entry) (entries : List (String × Entry)) :
    (setName name new entries).lookup other =
      if other = name then some new else entries.lookup other := by
  induction entries with
  | nil =>
    by_cases h : other = name
    · simp [setName, h]
    · have hname : (other == name) = false := by simpa using h
      simp [setName, List.lookup_cons, h, hname]
  | cons entry entries ih =>
    obtain ⟨n, e⟩ := entry
    rw [setName]
    split_ifs at ih ⊢ with hn h h
    · rw [hn, h, List.lookup_cons_self]
    · have hname : (other == n) = false := by simpa [hn] using h
      rw [List.lookup_cons, List.lookup_cons, hname]
    · have hne : (other == n) = false := by simpa [h] using Ne.symm hn
      rw [List.lookup_cons, hne]
      exact ih
    · rw [List.lookup_cons, List.lookup_cons, ih]

/-- Whether the directory of a place is there. -/
def HasDirectory (e : Entry) (place : List String) : Prop :=
  place = [] ∨ ∃ entries, e.at? place.dropLast = some (.dir entries)

/-- A place in a directory that is there has a directory above it. -/
lemma HasDirectory.concat {e : Entry} {place : List String} {entries : List (String × Entry)}
    (h : e.at? place = some (.dir entries)) (name : String) :
    e.HasDirectory (place ++ [name]) := by
  right
  exact ⟨entries, by rw [List.dropLast_concat, h]⟩

/-- The directory of an entry is there. -/
lemma hasDirectory_of_at? {e e' : Entry} {place : List String} (h : e.at? place = some e') :
    e.HasDirectory place := by
  rcases List.eq_nil_or_concat place with rfl | ⟨init, name, rfl⟩
  · exact Or.inl rfl
  · rw [List.concat_eq_append, at?_append, Option.bind_eq_some_iff] at h
    obtain ⟨inner, hinner, hname⟩ := h
    obtain ⟨entries, -, rfl, -, -⟩ := exists_dir_of_at?_cons hname
    rw [List.concat_eq_append]
    exact .concat hinner name

/-- **What is put at a place is there**, if there is a directory for it. -/
lemma at?_put {e : Entry} {place : List String} (h : e.HasDirectory place) (new : Entry) :
    (e.put place new).at? place = some new := by
  induction place generalizing e with
  | nil => simp [put]
  | cons name names ih =>
    rcases h with h | ⟨entries', hdir⟩
    · cases h
    · cases names with
      | nil =>
        obtain rfl : e = .dir entries' := by simpa using hdir
        rw [put]
        cases entries'.lookup name with
        | none => simp [at?_dir_cons, lookup_setName]
        | some inner => simp [at?_dir_cons, lookup_setName, put]
      | cons name' names =>
        rw [List.dropLast_cons_cons] at hdir
        obtain ⟨entries, inner, rfl, hlookup, hinner⟩ := exists_dir_of_at?_cons hdir
        have hput := ih (Or.inr ⟨entries', hinner⟩)
        rw [put, hlookup]
        simpa [at?_dir_cons, lookup_setName] using hput

/-- Putting something new, or something over an entry of the same shape that is no directory,
keeps the shape of everything else.

**Proof sketch.** Induction on the place. On the way to it nothing is touched but the entry of one
name in each directory; at its end the shape is the same. -/
lemma shape_at?_put {e : Entry} {place : List String} {new : Entry}
    (h : ∀ old, e.at? place = some old → old.shape = new.shape ∧ old.shape ≠ .dir)
    {p : List String} {e₀ : Entry} (hp : e.at? p = some e₀) :
    ∃ e₁, (e.put place new).at? p = some e₁ ∧ e₁.shape = e₀.shape := by
  induction place generalizing e p with
  | nil =>
    obtain ⟨hshape, hdir⟩ := h e (at?_nil e)
    cases p with
    | nil =>
      obtain rfl : e = e₀ := by simpa using hp
      exact ⟨new, by simp [put], hshape.symm⟩
    | cons q qs =>
      obtain ⟨entries, -, rfl, -, -⟩ := exists_dir_of_at?_cons hp
      exact absurd rfl hdir
  | cons name names ih =>
    cases e with
    | dir entries =>
      rw [put]
      cases p with
      | nil =>
        obtain rfl : dir entries = e₀ := by simpa using hp
        split
        · exact ⟨_, at?_nil _, rfl⟩
        · split
          · exact ⟨_, at?_nil _, rfl⟩
          · exact ⟨_, at?_nil _, rfl⟩
      | cons q qs =>
        rw [at?_dir_cons, Option.bind_eq_some_iff] at hp
        obtain ⟨inner, hq, hinner⟩ := hp
        cases hname : entries.lookup name with
        | none =>
          have hne : q ≠ name := by
            rintro rfl
            rw [hname] at hq
            cases hq
          dsimp only
          split
          · exact ⟨e₀, by simp [at?_dir_cons, lookup_setName, hne, hq, hinner], rfl⟩
          · exact ⟨e₀, by simp [at?_dir_cons, hq, hinner], rfl⟩
        | some old =>
          by_cases hqn : q = name
          · subst hqn
            obtain rfl : old = inner := Option.some.inj (hname.symm.trans hq)
            have hold : ∀ old', old.at? names = some old' →
                old'.shape = new.shape ∧ old'.shape ≠ .dir := by
              intro old' hold'
              exact h old' (by rw [at?_dir_cons, hname, Option.bind_some, hold'])
            obtain ⟨e₁, he₁, hshape⟩ := ih hold hinner
            exact ⟨e₁, by simpa [at?_dir_cons, lookup_setName] using he₁, hshape⟩
          · exact ⟨e₀, by simp [at?_dir_cons, lookup_setName, hqn, hq, hinner], rfl⟩
    | _ => exact ⟨e₀, by simpa [put] using hp, rfl⟩

end Entry

/-- Cutting at slashes gives at least one part. -/
lemma Path.splitSlashFrom_ne_nil (part cs : List Char) : splitSlashFrom part cs ≠ [] := by
  induction cs generalizing part with
  | nil => simp [splitSlashFrom]
  | cons c cs ih =>
    rw [splitSlashFrom]
    split
    · simp
    · exact ih _

/-- Splitting a path at slashes gives at least one part. -/
lemma Path.splitSlash_ne_nil (s : String) : splitSlash s ≠ [] := by
  simpa [splitSlash] using splitSlashFrom_ne_nil [] s.toList

namespace FileSystem

/-! ## Changes -/

/-- A later file system in which everything is still there, with its shape. -/
structure Keeps (fs fs' : FileSystem) : Prop where
  current : fs'.current = fs.current
  shape : ∀ place e, fs.root.at? place = some e →
    ∃ e', fs'.root.at? place = some e' ∧ e'.shape = e.shape

/-- A file system keeps what it has. -/
lemma Keeps.refl (fs : FileSystem) : fs.Keeps fs := ⟨rfl, fun _ e h => ⟨e, h, rfl⟩⟩

/-- What is kept by two changes is kept by both together. -/
lemma Keeps.trans {fs fs' fs'' : FileSystem} (h : fs.Keeps fs') (h' : fs'.Keeps fs'') :
    fs.Keeps fs'' where
  current := h'.current.trans h.current
  shape := by
    intro place e he
    obtain ⟨e', he', hshape⟩ := h.shape place e he
    obtain ⟨e'', he'', hshape'⟩ := h'.shape place e' he'
    exact ⟨e'', he'', hshape'.trans hshape⟩

/-- A directory that is kept is still a directory. -/
lemma Keeps.dir {fs fs' : FileSystem} (h : fs.Keeps fs') {place : List String}
    {entries : List (String × Entry)} (hdir : fs.root.at? place = some (.dir entries)) :
    ∃ entries', fs'.root.at? place = some (.dir entries') := by
  obtain ⟨e', he', hshape⟩ := h.shape _ _ hdir
  obtain ⟨entries', rfl⟩ := Entry.exists_eq_dir_of_shape hshape
  exact ⟨entries', he'⟩

/-- **Putting something new, or a file over a file, keeps the rest.** -/
lemma keeps_put {fs : FileSystem} {place : List String} {new : Entry}
    (h : ∀ old, fs.root.at? place = some old → old.shape = new.shape ∧ old.shape ≠ .dir) :
    fs.Keeps (fs.put place new) :=
  ⟨rfl, fun _ _ he => Entry.shape_at?_put h he⟩

/-- A new entry at a free place keeps all that is there. -/
lemma keeps_put_of_none {fs : FileSystem} {place : List String}
    (h : fs.root.at? place = none) (new : Entry) : fs.Keeps (fs.put place new) := by
  refine keeps_put fun old hold => ?_
  rw [h] at hold
  cases hold

/-! ## The look-up as a relation -/

/-- Whether a part of a path is a name to look up, in front of the parts behind it. -/
structure IsName (writing : Bool) (part : String) (rest : List String) : Prop where
  notHere : ¬ (part = "" ∨ part = ".")
  notUp : part ≠ ".."
  noSlash : (writing && !rest.isEmpty && rest.all (· == "")) = false
  short : ¬ part.utf8ByteSize > maxName

/-- A name may have other parts behind it when it is read. -/
lemma IsName.reading {writing : Bool} {part : String} {rest : List String}
    (h : IsName writing part rest) (more : List String) : IsName false part more :=
  ⟨h.notHere, h.notUp, rfl, h.short⟩

/-- The look-up of the parts of a path, with at most so many links on the way. -/
inductive Leads (fs : FileSystem) (writing : Bool) :
    Nat → List String → List String → Spot → Prop
  | done (links : Nat) (place : List String) : Leads fs writing links place [] (.occupied place)
  | stay {links : Nat} {place : List String} {entries : List (String × Entry)} {part : String}
      {rest : List String} {spot : Spot} (hdir : fs.root.at? place = some (.dir entries))
      (hpart : part = "" ∨ part = ".") (h : Leads fs writing links place rest spot) :
      Leads fs writing links place (part :: rest) spot
  | up {links : Nat} {place : List String} {entries : List (String × Entry)}
      {rest : List String} {spot : Spot} (hdir : fs.root.at? place = some (.dir entries))
      (h : Leads fs writing links place.dropLast rest spot) :
      Leads fs writing links place (".." :: rest) spot
  | vacant {links : Nat} {place : List String} {entries : List (String × Entry)} {part : String}
      (hdir : fs.root.at? place = some (.dir entries)) (hname : IsName writing part [])
      (hnone : fs.root.at? (place ++ [part]) = none) :
      Leads fs writing links place [part] (.vacant place part)
  | link {links : Nat} {place : List String} {entries : List (String × Entry)} {part : String}
      {rest : List String} {target : String} {spot : Spot}
      (hdir : fs.root.at? place = some (.dir entries)) (hname : IsName writing part rest)
      (hlink : fs.root.at? (place ++ [part]) = some (.link target))
      (h : Leads fs writing links (if Path.isAbsolute target then [] else place)
        (Path.splitSlash target ++ rest) spot) :
      Leads fs writing (links + 1) place (part :: rest) spot
  | enter {links : Nat} {place : List String} {entries : List (String × Entry)} {part : String}
      {rest : List String} {e : Entry} {spot : Spot}
      (hdir : fs.root.at? place = some (.dir entries)) (hname : IsName writing part rest)
      (he : fs.root.at? (place ++ [part]) = some e) (hlink : ∀ target, e.shape ≠ .link target)
      (h : Leads fs writing links (place ++ [part]) rest spot) :
      Leads fs writing links place (part :: rest) spot

section Follow

variable {fs : FileSystem} {writing : Bool} {links : Nat} {place : List String}
  {entries : List (String × Entry)} {part : String} {rest : List String}

/-- Without parts the way ends where it began. -/
lemma follow_nil (links : Nat) (place : List String) :
    fs.follow writing links place [] = .ok (.occupied place) := by
  rw [follow]

/-- A dot or nothing between slashes stays in the directory. -/
lemma follow_stay (hdir : fs.root.at? place = some (.dir entries))
    (hpart : part = "" ∨ part = ".") :
    fs.follow writing links place (part :: rest) = fs.follow writing links place rest := by
  rw [follow]
  simp only [hdir, hpart, if_true]

/-- Two dots lead to the directory above. -/
lemma follow_up (hdir : fs.root.at? place = some (.dir entries)) :
    fs.follow writing links place (".." :: rest) =
      fs.follow writing links place.dropLast rest := by
  rw [follow]
  simp [hdir]

/-- A last name that is free in a directory leads to the free place. -/
lemma follow_vacant (hdir : fs.root.at? place = some (.dir entries))
    (hname : IsName writing part []) (hnone : fs.root.at? (place ++ [part]) = none) :
    fs.follow writing links place [part] = .ok (.vacant place part) := by
  rw [Entry.at?_concat hdir] at hnone
  rw [follow]
  simp [hdir, hname.notHere, hname.notUp, hname.short, hnone]

/-- A link is followed from its directory, or from the root if it is absolute. -/
lemma follow_link {target : String} (hdir : fs.root.at? place = some (.dir entries))
    (hname : IsName writing part rest)
    (hlink : fs.root.at? (place ++ [part]) = some (.link target)) :
    fs.follow writing (links + 1) place (part :: rest) =
      fs.follow writing links (if Path.isAbsolute target then [] else place)
        (Path.splitSlash target ++ rest) := by
  rw [Entry.at?_concat hdir] at hlink
  rw [follow]
  simp only [hdir, hname.notHere, hname.notUp, hname.noSlash, hname.short, hlink, if_false,
    Bool.false_eq_true]

/-- Any other name leads on to what it stands for. -/
lemma follow_enter {e : Entry} (hdir : fs.root.at? place = some (.dir entries))
    (hname : IsName writing part rest) (he : fs.root.at? (place ++ [part]) = some e)
    (hlink : ∀ target, e.shape ≠ .link target) :
    fs.follow writing links place (part :: rest) =
      fs.follow writing links (place ++ [part]) rest := by
  rw [Entry.at?_concat hdir] at he
  rw [follow]
  simp only [hdir, hname.notHere, hname.notUp, hname.noSlash, hname.short, he, if_false,
    Bool.false_eq_true]
  cases e with
  | link target => exact absurd rfl (hlink target)
  | _ => rfl

/-- What a look-up that succeeds has gone through. -/
lemma leads_of_follow {parts : List String} {spot : Spot}
    (h : fs.follow writing links place parts = .ok spot) :
    fs.Leads writing links place parts spot := by
  fun_induction follow fs writing links place parts with
  | case1 links place =>
    cases h
    exact .done links place
  | case2 links place part rest entries hdir hpart ih => exact .stay hdir hpart (ih h)
  | case3 links place rest entries hdir _ ih => exact .up hdir (ih h)
  | case6 links place part rest entries hdir hhere hup hslash hshort hnone hrest =>
    obtain rfl := List.isEmpty_iff.mp hrest
    cases h
    exact .vacant hdir ⟨hhere, hup, Bool.eq_false_iff.mpr hslash, hshort⟩
      (by rw [Entry.at?_concat hdir, hnone])
  | case9 place part rest entries hdir hhere hup hslash hshort target hlink links ih =>
    rw [dite_eq_ite] at ih
    exact .link hdir ⟨hhere, hup, Bool.eq_false_iff.mpr hslash, hshort⟩
      (by rw [Entry.at?_concat hdir, hlink]) (ih h)
  | case10 links place part rest entries hdir hhere hup hslash hshort e he hlookup ih =>
    refine .enter hdir ⟨hhere, hup, Bool.eq_false_iff.mpr hslash, hshort⟩
      (by rw [Entry.at?_concat hdir, hlookup]) (fun target hshape => ?_) (ih h)
    exact he target (Entry.eq_link_of_shape hshape)
  | case4 | case5 | case7 | case8 | case11 | case12 => cases h

/-- **The look-up and the relation** say the same. -/
lemma follow_eq_ok_iff {parts : List String} {spot : Spot} :
    fs.follow writing links place parts = .ok spot ↔ fs.Leads writing links place parts spot := by
  refine ⟨leads_of_follow, fun h => ?_⟩
  induction h with
  | done links place => exact follow_nil links place
  | stay hdir hpart _ ih => rw [follow_stay hdir hpart, ih]
  | up hdir _ ih => rw [follow_up hdir, ih]
  | vacant hdir hname hnone => exact follow_vacant hdir hname hnone
  | link hdir hname hlink _ ih => rw [follow_link hdir hname hlink, ih]
  | enter hdir hname he hlink _ ih => rw [follow_enter hdir hname he hlink, ih]

end Follow

/-! ## Look-ups after a change -/

section Changes

variable {fs fs' : FileSystem} {writing : Bool} {links : Nat} {place parts : List String}

/-- What can be written at a path can be read at it. -/
lemma Leads.reading {spot : Spot} (h : fs.Leads writing links place parts spot) :
    fs.Leads false links place parts spot := by
  induction h with
  | done links place => exact .done links place
  | stay hdir hpart _ ih => exact .stay hdir hpart ih
  | up hdir _ ih => exact .up hdir ih
  | vacant hdir hname hnone => exact .vacant hdir (hname.reading _) hnone
  | link hdir hname hlink _ ih => exact .link hdir (hname.reading _) hlink ih
  | enter hdir hname he hlink _ ih => exact .enter hdir (hname.reading _) he hlink ih

/-- The step from a name to what it stands for is still there after a change. -/
lemma Leads.enter_of_keeps (hkeeps : fs.Keeps fs') {entries : List (String × Entry)}
    {part : String} {rest : List String} {e : Entry} {spot : Spot}
    (hdir : fs.root.at? place = some (.dir entries)) (hname : IsName writing part rest)
    (he : fs.root.at? (place ++ [part]) = some e) (hlink : ∀ target, e.shape ≠ .link target)
    (h : fs'.Leads writing links (place ++ [part]) rest spot) :
    fs'.Leads writing links place (part :: rest) spot := by
  obtain ⟨entries', hdir'⟩ := hkeeps.dir hdir
  obtain ⟨e', he', hshape⟩ := hkeeps.shape _ _ he
  exact .enter hdir' hname he' (by rw [hshape]; exact hlink) h

/-- So is the step over a link. -/
lemma Leads.link_of_keeps (hkeeps : fs.Keeps fs') {entries : List (String × Entry)}
    {part target : String} {rest : List String} {spot : Spot}
    (hdir : fs.root.at? place = some (.dir entries)) (hname : IsName writing part rest)
    (hlink : fs.root.at? (place ++ [part]) = some (.link target))
    (h : fs'.Leads writing links (if Path.isAbsolute target then [] else place)
      (Path.splitSlash target ++ rest) spot) :
    fs'.Leads writing (links + 1) place (part :: rest) spot := by
  obtain ⟨entries', hdir'⟩ := hkeeps.dir hdir
  obtain ⟨e', he', hshape⟩ := hkeeps.shape _ _ hlink
  obtain rfl := Entry.eq_link_of_shape hshape
  exact .link hdir' hname he' h

/-- **A look-up that found something finds it after a change** that keeps everything. -/
lemma Leads.of_keeps (hkeeps : fs.Keeps fs') {found : List String}
    (h : fs.Leads writing links place parts (.occupied found)) :
    fs'.Leads writing links place parts (.occupied found) := by
  generalize hspot : Spot.occupied found = spot at h
  induction h with
  | done links place => exact .done links place
  | stay hdir hpart _ ih =>
    obtain ⟨entries', hdir'⟩ := hkeeps.dir hdir
    exact .stay hdir' hpart (ih hspot)
  | up hdir _ ih =>
    obtain ⟨entries', hdir'⟩ := hkeeps.dir hdir
    exact .up hdir' (ih hspot)
  | vacant => cases hspot
  | link hdir hname hlink _ ih => exact .link_of_keeps hkeeps hdir hname hlink (ih hspot)
  | enter hdir hname he hlink _ ih => exact .enter_of_keeps hkeeps hdir hname he hlink (ih hspot)

/-- **What is put where a look-up ended at a free name is found by it.** -/
lemma Leads.fill (hkeeps : fs.Keeps fs') {directory : List String} {name : String} {e : Entry}
    (he : fs'.root.at? (directory ++ [name]) = some e) (hlink : ∀ target, e.shape ≠ .link target)
    (h : fs.Leads writing links place parts (.vacant directory name)) :
    fs'.Leads writing links place parts (.occupied (directory ++ [name])) := by
  generalize hspot : Spot.vacant directory name = spot at h
  induction h with
  | done => cases hspot
  | stay hdir hpart _ ih =>
    obtain ⟨entries', hdir'⟩ := hkeeps.dir hdir
    exact .stay hdir' hpart (ih hspot)
  | up hdir _ ih =>
    obtain ⟨entries', hdir'⟩ := hkeeps.dir hdir
    exact .up hdir' (ih hspot)
  | vacant hdir hname hnone =>
    cases hspot
    obtain ⟨entries', hdir'⟩ := hkeeps.dir hdir
    exact .enter hdir' hname he hlink (.done _ _)
  | link hdir hname hlink _ ih => exact .link_of_keeps hkeeps hdir hname hlink (ih hspot)
  | enter hdir hname he hlink _ ih => exact .enter_of_keeps hkeeps hdir hname he hlink (ih hspot)

/-- Behind parts that lead to something the look-up goes on from there. -/
lemma Leads.follow_append {found : List String}
    (h : fs.Leads false links place parts (.occupied found)) (more : List String) :
    ∃ links', fs.follow false links place (parts ++ more) =
      fs.follow false links' found more := by
  generalize hspot : Spot.occupied found = spot at h
  induction h with
  | done links place =>
    cases hspot
    exact ⟨links, rfl⟩
  | stay hdir hpart _ ih =>
    rw [List.cons_append, follow_stay hdir hpart]
    exact ih hspot
  | up hdir _ ih =>
    rw [List.cons_append, follow_up hdir]
    exact ih hspot
  | vacant => cases hspot
  | link hdir hname hlink _ ih =>
    rw [List.cons_append, follow_link hdir (hname.reading _) hlink, ← List.append_assoc]
    exact ih hspot
  | enter hdir hname he hlink _ ih =>
    rw [List.cons_append, follow_enter hdir (hname.reading _) he hlink]
    exact ih hspot

/-! ## What a look-up ends at -/

/-- Whether there is something at a place that a look-up may end at. -/
def Solid (fs : FileSystem) (place : List String) : Prop :=
  ∃ e, fs.root.at? place = some e ∧ ∀ target, e.shape ≠ .link target

/-- The place of a directory is solid. -/
lemma solid_of_dir {entries : List (String × Entry)}
    (h : fs.root.at? place = some (.dir entries)) : fs.Solid place :=
  ⟨.dir entries, h, fun _ h => Entry.Shape.noConfusion h⟩

/-- Above a directory there are directories. -/
lemma solid_dropLast {entries : List (String × Entry)}
    (h : fs.root.at? place = some (.dir entries)) : fs.Solid place.dropLast := by
  rcases Entry.hasDirectory_of_at? h with rfl | ⟨above, habove⟩
  · exact solid_of_dir h
  · exact solid_of_dir habove

/-- A look-up that found something ended at an entry that is no link. -/
lemma Leads.solid {found : List String} (h : fs.Leads writing links place parts (.occupied found))
    (hparts : parts ≠ [] ∨ fs.Solid place) : fs.Solid found := by
  generalize hspot : Spot.occupied found = spot at h
  induction h with
  | done links place =>
    cases hspot
    exact hparts.resolve_left (· rfl)
  | stay hdir _ _ ih => exact ih (Or.inr (solid_of_dir hdir)) hspot
  | up hdir _ ih => exact ih (Or.inr (solid_dropLast hdir)) hspot
  | vacant => cases hspot
  | link _ _ _ _ ih =>
    refine ih (Or.inl fun hnil => ?_) hspot
    exact Path.splitSlash_ne_nil _ (List.append_eq_nil_iff.mp hnil).1
  | enter _ _ he hlink _ ih => exact ih (Or.inr ⟨_, he, hlink⟩) hspot

/-- A free name stands in a directory that does not have it. -/
lemma Leads.free {directory : List String} {name : String}
    (h : fs.Leads writing links place parts (.vacant directory name)) :
    (∃ entries, fs.root.at? directory = some (.dir entries)) ∧
      fs.root.at? (directory ++ [name]) = none := by
  generalize hspot : Spot.vacant directory name = spot at h
  induction h with
  | done => cases hspot
  | vacant hdir _ hnone =>
    cases hspot
    exact ⟨⟨_, hdir⟩, hnone⟩
  | stay _ _ _ ih => exact ih hspot
  | up _ _ ih => exact ih hspot
  | link _ _ _ _ ih => exact ih hspot
  | enter _ _ _ _ _ ih => exact ih hspot

end Changes

end FileSystem

end CodeCatalog
