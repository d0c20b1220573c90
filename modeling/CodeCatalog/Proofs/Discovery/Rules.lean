import Mathlib.Data.List.Infix
import CodeCatalog.Proofs.Discovery.Walk
import CodeCatalog.Proofs.Files.Below

/-!
# What the ignore files in a tree say

An ignore file sees the paths of entries relative to its own directory, however the path of the
root is spelled. So what the files in a tree say about its entries is said by the tree alone, and
nothing else matters where no file outside the tree says anything.

## Main definitions

* `CodeCatalog.IgnoreRules.inside` — the rules that hold in a directory below the root of a walk.
* `CodeCatalog.Entry.verdict` — what the ignore files in a tree say about an entry of it.
* `CodeCatalog.Path.DotsTwice` — the paths whose spelling ignore files take for another one.
* `CodeCatalog.FileSystem.Undisturbed` — no ignore file outside a tree says anything about it.

## Main results

* `CodeCatalog.RuleFile.localPath_below` — an ignore file sees paths relative to its directory.
* `CodeCatalog.RuleFile.load_below` — the rules of a file below a root.
* `CodeCatalog.IgnoreRules.verdict_inside` — what rules say about an entry below a root.
-/

namespace CodeCatalog

/-! ## The first verdict -/

namespace Verdict

/-- Rules that decide nothing add nothing. -/
@[simp] lemma orElse_undecided (v : Verdict) : v.orElse .undecided = v := by cases v <;> rfl

/-- It does not matter how verdicts are grouped. -/
lemma orElse_assoc (u v w : Verdict) : (u.orElse v).orElse w = u.orElse (v.orElse w) := by
  cases u <;> rfl

/-- The first verdict of two lists is that of the first list, else that of the second. -/
lemma first_append (us vs : List Verdict) : first (us ++ vs) = (first us).orElse (first vs) := by
  induction us with
  | nil => rfl
  | cons u us ih =>
    rw [List.cons_append, first, List.foldr_cons, ← first, ih, ← orElse_assoc]
    rfl

/-- Nothing is decided if no verdict decides anything. -/
lemma first_eq_undecided_iff {vs : List Verdict} :
    first vs = .undecided ↔ ∀ v ∈ vs, v = .undecided := by
  induction vs with
  | nil => simp [first]
  | cons v vs ih =>
    rw [List.forall_mem_cons, ← ih, first, List.foldr_cons, ← first]
    cases v <;> simp [orElse]

/-- What is not found to be ignored is not ignored. -/
lemma beq_ignored_eq_false_iff {v : Verdict} : (v == .ignored) = false ↔ v ≠ .ignored := by
  cases v <;> decide

end Verdict

/-! ## Paths relative to an ignore file -/

namespace RuleFile

/-- Whether a text begins with `./`. -/
def BeginsWithDot (cs : List Char) : Prop := ['.', '/'] <+: cs

instance : DecidablePred BeginsWithDot := fun _ => inferInstanceAs (Decidable (_ <+: _))

/-- The first two characters decide. -/
lemma beginsWithDot_cons_cons_iff {c d : Char} {cs : List Char} :
    BeginsWithDot (c :: d :: cs) ↔ c = '.' ∧ d = '/' := by
  simp [BeginsWithDot, List.cons_prefix_cons, eq_comm]

/-- What stands behind a begin is left when the begin is dropped. -/
lemma dropLeading?_append (xs ys : List Char) :
    IgnoreRule.dropLeading? xs (xs ++ ys) = some ys := by
  induction xs with
  | nil => rfl
  | cons x xs ih => rw [List.cons_append, IgnoreRule.dropLeading?, if_pos rfl, ih]

/-- A begin that is not there is not dropped. -/
lemma dropLeading?_eq_none {xs cs : List Char} (h : ¬ xs <+: cs) :
    IgnoreRule.dropLeading? xs cs = none := by
  fun_induction IgnoreRule.dropLeading? xs cs with
  | case1 => exact absurd List.nil_prefix h
  | case2 => rfl
  | case3 xs y ys ih => exact ih fun hrest => h (List.cons_prefix_cons.mpr ⟨rfl, hrest⟩)
  | case4 => rfl

/-- A dot and a slash are dropped from the begin of a path. -/
lemma dropDot_append (cs : List Char) : dropDot (['.', '/'] ++ cs) = cs := by
  rw [dropDot, dropLeading?_append, Option.getD_some]

/-- Nothing else is dropped from the begin of a path. -/
lemma dropDot_of_not {cs : List Char} (h : ¬ BeginsWithDot cs) : dropDot cs = cs := by
  rw [dropDot, dropLeading?_eq_none h, Option.getD_none]

/-- Seen from a directory a path is what follows the slash behind it. -/
lemma seenFrom_slash (directory path : List Char) :
    seenFrom directory (directory ++ '/' :: path) = path := by
  simp only [seenFrom, dropLeading?_append]

/-- Seen from a directory that ends in a slash a path is what follows it. -/
lemma seenFrom_append {directory path : List Char} (h : path.head? ≠ some '/') :
    seenFrom directory (directory ++ path) = path := by
  rw [seenFrom, dropLeading?_append]
  split <;> simp_all

/-- Names do not begin with `./`, whatever stands behind them. -/
lemma not_beginsWithDot_name {name : String} (hname : Path.IsFileName name) (rest : List Char) :
    ¬ BeginsWithDot (name.toList ++ rest) := by
  intro h
  cases hchars : name.toList with
  | nil => exact hname.ne_empty (by simpa using hchars)
  | cons c cs =>
    rw [hchars] at h
    cases cs with
    | nil =>
      obtain ⟨rfl, -⟩ := List.cons_prefix_cons.mp h
      exact hname.ne_dot (String.toList_inj.mp hchars)
    | cons d ds =>
      obtain ⟨-, rfl⟩ := beginsWithDot_cons_cons_iff.mp h
      exact hname.noSlash (by simp [hchars])

/-- A path of names begins with its first name. -/
lemma exists_intercalate_eq (name : String) (names : List String) :
    ∃ rest, ("/".intercalate (name :: names)).toList = name.toList ++ rest := by
  cases names with
  | nil => exact ⟨[], by rw [String.intercalate_singleton, List.append_nil]⟩
  | cons next names =>
    rw [String.intercalate_cons_cons, String.append_assoc, String.toList_append]
    exact ⟨_, rfl⟩

/-- A path of file names does not begin with a dot and a slash. -/
lemma not_beginsWithDot_intercalate {names : List String}
    (hnames : ∀ name ∈ names, Path.IsFileName name) (hne : names ≠ []) (rest : List Char) :
    ¬ BeginsWithDot (("/".intercalate names).toList ++ rest) := by
  cases names with
  | nil => exact absurd rfl hne
  | cons name names =>
    obtain ⟨more, hmore⟩ := exists_intercalate_eq name names
    rw [hmore, List.append_assoc]
    exact not_beginsWithDot_name (hnames name List.mem_cons_self) _

/-- A path of file names does not begin with a slash. -/
lemma head?_intercalate_ne_slash {names : List String}
    (hnames : ∀ name ∈ names, Path.IsFileName name) (hne : names ≠ []) :
    ("/".intercalate names).toList.head? ≠ some '/' := by
  cases names with
  | nil => exact absurd rfl hne
  | cons name names =>
    have hname := hnames name List.mem_cons_self
    obtain ⟨more, hmore⟩ := exists_intercalate_eq name names
    have hchars : name.toList ≠ [] := by simpa using hname.ne_empty
    rw [hmore, List.head?_append, List.head?_eq_some_head hchars, Option.some_or]
    intro hslash
    exact hname.noSlash (Option.some.inj hslash ▸ List.head_mem hchars)

/-- What stands behind a slash does not decide whether a text begins with `./`. -/
lemma not_beginsWithDot_append {front rest : List Char}
    (hslash : front = [] ∨ front.getLast? = some '/') (hfront : ¬ BeginsWithDot front)
    (hrest : ¬ BeginsWithDot rest) : ¬ BeginsWithDot (front ++ rest) := by
  intro h
  match front with
  | [] => exact hrest h
  | [c] =>
    obtain rfl : c = '/' := by simpa using hslash
    exact absurd (List.cons_prefix_cons.mp h).1 (by decide)
  | c :: d :: front =>
    exact hfront (beginsWithDot_cons_cons_iff.mpr (beginsWithDot_cons_cons_iff.mp h))

/-- Spellings of `.` begin with `./` when a slash is put behind them. -/
lemma beginsWithDot_of_isDot {cs : List Char} (h : isDot cs = true) :
    BeginsWithDot (cs ++ ['/']) := by
  rw [isDot, beq_iff_eq, Path.components_eq] at h
  have hanchor : Path.anchor (String.ofList cs) = ["."] := by
    cases ha : Path.anchor (String.ofList cs) with
    | nil =>
      rw [ha, List.nil_append] at h
      have hmem : "." ∈ (Path.splitSlash (String.ofList cs)).filter Path.isMeaningful := by
        rw [h]
        exact List.mem_cons_self
      exact absurd (List.mem_filter.mp hmem).2 (by decide)
    | cons a as =>
      rw [ha, List.cons_append] at h
      obtain ⟨rfl, hnil⟩ := List.cons.inj h
      rw [(List.append_eq_nil_iff.mp hnil).1]
  rw [Path.anchor] at hanchor
  split_ifs at hanchor with habsolute hdot
  · exact absurd hanchor (by decide)
  · obtain ⟨rest, hrest⟩ := List.head?_eq_some_iff.mp hdot
    have hcs : cs = ("/".intercalate ("." :: rest)).toList := by
      rw [← hrest, Path.intercalate_splitSlash, String.toList_ofList]
    cases rest with
    | nil =>
      rw [hcs, String.intercalate_singleton]
      exact ⟨[], rfl⟩
    | cons next rest =>
      rw [hcs, String.intercalate_cons_cons, String.append_assoc]
      exact ⟨("/".intercalate (next :: rest)).toList ++ ['/'], by simp [String.toList_append]⟩

end RuleFile

/-- Whether a path, with a slash at its end, begins with `./` twice. One of them is dropped from the
directory of an ignore file, and two from the paths that it is about. -/
def Path.DotsTwice (path : String) : Prop := ['.', '/', '.', '/'] <+: (slashed path).toList

instance : DecidablePred Path.DotsTwice := fun _ => inferInstanceAs (Decidable (_ <+: _))

namespace RuleFile

variable {root : String}

/-- A path with a slash at its end ends in a slash. -/
lemma getLast?_slashed (path : String) : (Path.slashed path).toList.getLast? = some '/' := by
  rw [Path.slashed]
  split_ifs with h
  · exact beq_iff_eq.mp h
  · simp [String.toList_append]

/-- What is left of a root without `./` ends in a slash. -/
lemma getLast?_dropDot_slashed (root : String) :
    dropDot (Path.slashed root).toList = [] ∨
      (dropDot (Path.slashed root).toList).getLast? = some '/' := by
  have hlast := getLast?_slashed root
  by_cases h : BeginsWithDot (Path.slashed root).toList
  · obtain ⟨rest, hrest⟩ := h
    rw [← hrest] at hlast ⊢
    rw [dropDot_append]
    cases rest with
    | nil => exact Or.inl rfl
    | cons c rest =>
      right
      rw [List.getLast?_append, List.getLast?_eq_some_getLast (List.cons_ne_nil c rest),
        Option.some_or] at hlast
      rw [List.getLast?_eq_some_getLast (List.cons_ne_nil c rest), hlast]
  · rw [dropDot_of_not h]
    exact Or.inr hlast

/-- What is left of a root without `./` does not begin with `./`, unless the root does so twice. -/
lemma not_beginsWithDot_dropDot_slashed (hroot : ¬ Path.DotsTwice root) :
    ¬ BeginsWithDot (dropDot (Path.slashed root).toList) := by
  by_cases h : BeginsWithDot (Path.slashed root).toList
  · obtain ⟨rest, hrest⟩ := h
    rw [← hrest, dropDot_append]
    rintro ⟨more, rfl⟩
    exact hroot ⟨more, hrest⟩
  · rwa [dropDot_of_not h]

/-- One `./` is dropped from the path of an entry, and a second one is not there. -/
lemma dropDot_below {names : List String} (hempty : root ≠ "") (hroot : ¬ Path.DotsTwice root)
    (hnames : ∀ name ∈ names, Path.IsFileName name) (hne : names ≠ []) :
    dropDot (Path.below root names).toList =
        dropDot (Path.slashed root).toList ++ ("/".intercalate names).toList ∧
      ¬ BeginsWithDot (dropDot (Path.below root names).toList) := by
  have hrest := not_beginsWithDot_intercalate hnames hne []
  rw [List.append_nil] at hrest
  have heq : dropDot (Path.below root names).toList =
      dropDot (Path.slashed root).toList ++ ("/".intercalate names).toList := by
    rw [Path.below_eq_slashed_append hempty hnames hne, String.toList_append]
    by_cases h : BeginsWithDot (Path.slashed root).toList
    · obtain ⟨rest, hrest⟩ := h
      rw [← hrest, List.append_assoc, dropDot_append, dropDot_append]
    · rw [dropDot_of_not h, dropDot_of_not
        (not_beginsWithDot_append (Or.inr (getLast?_slashed root)) h hrest)]
  refine ⟨heq, ?_⟩
  rw [heq]
  exact not_beginsWithDot_append (getLast?_dropDot_slashed root)
    (not_beginsWithDot_dropDot_slashed hroot) hrest

/-- The directory where a walk begins, as its ignore files see it: `.`, or the root up to the slash
behind it. -/
lemma dropDot_root (root : String) :
    (root = "." ∧ dropDot (Path.slashed root).toList = []) ∨
      dropDot (Path.slashed root).toList = dropDot root.toList ∨
      dropDot (Path.slashed root).toList = dropDot root.toList ++ ['/'] := by
  rw [Path.slashed]
  split_ifs with hslash
  · exact Or.inr (Or.inl rfl)
  · have hlist : (root ++ "/").toList = root.toList ++ ['/'] := by
      rw [String.toList_append]
      rfl
    rw [hlist]
    by_cases h : BeginsWithDot root.toList
    · obtain ⟨rest, hrest⟩ := h
      rw [← hrest, List.append_assoc, dropDot_append, dropDot_append]
      exact Or.inr (Or.inr rfl)
    · by_cases hdot : BeginsWithDot (root.toList ++ ['/'])
      · left
        rcases hchars : root.toList with _ | ⟨c, _ | ⟨d, rest⟩⟩
        · rw [hchars] at hdot
          exact absurd hdot (by decide)
        · rw [hchars] at hdot
          obtain ⟨rfl, -⟩ := beginsWithDot_cons_cons_iff.mp hdot
          exact ⟨String.toList_inj.mp hchars, dropDot_append []⟩
        · rw [hchars] at hdot h
          exact absurd (beginsWithDot_cons_cons_iff.mpr (beginsWithDot_cons_cons_iff.mp hdot)) h
      · rw [dropDot_of_not h, dropDot_of_not hdot]
        exact Or.inr (Or.inr rfl)

/-- A directory that does not begin with `./`, with a slash behind it, is no spelling of `.`. -/
lemma isDot_eq_false {directory : List Char} (h : ¬ BeginsWithDot (directory ++ ['/'])) :
    isDot directory = false := by
  rw [Bool.eq_false_iff]
  exact fun hdot => h (beginsWithDot_of_isDot hdot)

/-- A single dot stays one. -/
lemma isDot_dropDot_dot : isDot (dropDot ".".toList) = true := by decide +kernel

section LocalPath

variable {file : RuleFile} {path : String} {rest : List Char}

/-- A file in the directory `.` sees paths as they are. -/
lemma localPath_of_dot (hdirectory : file.directory = ".") (hpath : ¬ BeginsWithDot path.toList) :
    file.localPath path = path.toList := by
  rw [localPath, hdirectory, isDot_dropDot_dot, dropDot_of_not hpath]
  rfl

/-- A file of rules sees what stands behind its directory and a slash. -/
lemma localPath_of_slash (hdirectory : ¬ BeginsWithDot (dropDot file.directory.toList ++ ['/']))
    (hpath : ¬ BeginsWithDot path.toList)
    (heq : path.toList = dropDot file.directory.toList ++ '/' :: rest) :
    file.localPath path = rest := by
  simp only [localPath, dropDot_of_not hpath, isDot_eq_false hdirectory]
  rw [heq]
  simp [seenFrom_slash]

/-- The slash may be one at the end of the directory. -/
lemma localPath_of_append (hslash : dropDot file.directory.toList = [] ∨
      (dropDot file.directory.toList).getLast? = some '/')
    (hdirectory : ¬ BeginsWithDot (dropDot file.directory.toList ++ ['/']))
    (hpath : ¬ BeginsWithDot path.toList)
    (heq : path.toList = dropDot file.directory.toList ++ rest) (hrest : rest.head? ≠ some '/') :
    file.localPath path = rest := by
  simp only [localPath, dropDot_of_not hpath, isDot_eq_false hdirectory, Bool.false_or]
  split_ifs with hnone
  · -- without any slash the directory is empty
    rcases hslash with hnil | hlast
    · rw [heq, hnil, List.nil_append]
    · have hmem : '/' ∈ path.toList := by
        rw [heq]
        exact List.mem_append_left _ (List.mem_of_getLast? hlast)
      simp [hmem] at hnone
  · rw [heq, seenFrom_append hrest]

end LocalPath

/-- Names joined with others have a slash between them. -/
lemma intercalate_append {front more : List String} (hfront : front ≠ []) (hmore : more ≠ []) :
    ("/".intercalate (front ++ more)).toList =
      ("/".intercalate front).toList ++ '/' :: ("/".intercalate more).toList := by
  induction front with
  | nil => exact absurd rfl hfront
  | cons name front ih =>
    cases front with
    | nil =>
      rw [List.singleton_append, String.intercalate_cons_of_ne_nil hmore,
        String.intercalate_singleton]
      simp [String.toList_append]
    | cons next front =>
      rw [List.cons_append, String.intercalate_cons_of_ne_nil (by simp),
        String.intercalate_cons_cons, String.toList_append,
        ih (List.cons_ne_nil next front)]
      simp [String.toList_append]

/-- **An ignore file sees paths relative to its directory**, if the root of the walk does not begin
with `./` twice. -/
lemma localPath_below {front more : List String} (hempty : root ≠ "")
    (hroot : ¬ Path.DotsTwice root) (hnames : ∀ name ∈ front ++ more, Path.IsFileName name)
    (hne : more ≠ []) (rules : List IgnoreRule) :
    (⟨Path.below root front, rules⟩ : RuleFile).localPath
        (String.ofList (dropDot (Path.below root (front ++ more)).toList)) =
      ("/".intercalate more).toList := by
  obtain ⟨hfront, hmore⟩ := List.forall_mem_append.mp hnames
  obtain ⟨hpath, hdot⟩ := dropDot_below hempty hroot hnames (by simp [hne])
  have hbegin := not_beginsWithDot_dropDot_slashed hroot
  have hend := getLast?_dropDot_slashed root
  by_cases hnil : front = []
  · subst hnil
    rw [List.nil_append] at hpath hdot ⊢
    rw [Path.below_nil]
    rcases dropDot_root root with ⟨rfl, hslashed⟩ | hslashed | hslashed
    · -- paths below `.` are already relative
      rw [hslashed, List.nil_append] at hpath
      rw [localPath_of_dot rfl (by rwa [String.toList_ofList]),
        String.toList_ofList, hpath]
    · rw [hslashed] at hend hbegin
      refine localPath_of_append hend ?_ (by rwa [String.toList_ofList])
        (by rw [String.toList_ofList, hpath, hslashed]) (head?_intercalate_ne_slash hmore hne)
      exact not_beginsWithDot_append hend hbegin (by decide)
    · refine localPath_of_slash ?_ (by rwa [String.toList_ofList]) ?_
      · rwa [← hslashed]
      · rw [String.toList_ofList, hpath, hslashed, List.append_assoc]
        rfl
  · obtain ⟨hdirectory, -⟩ := dropDot_below hempty hroot hfront hnil
    refine localPath_of_slash ?_ (by rwa [String.toList_ofList]) ?_
    · rw [hdirectory, List.append_assoc]
      exact not_beginsWithDot_append hend hbegin (not_beginsWithDot_intercalate hfront hnil _)
    · rw [String.toList_ofList, hpath, hdirectory, intercalate_append hnil hne, List.append_assoc]

/-- So the file says what it would say in the directory `.` about a relative path. -/
lemma verdict_below {front more : List String} (hempty : root ≠ "") (hroot : ¬ Path.DotsTwice root)
    (hnames : ∀ name ∈ front ++ more, Path.IsFileName name) (hne : more ≠ [])
    (rules : List IgnoreRule) (isDir : Bool) :
    (⟨Path.below root front, rules⟩ : RuleFile).verdict
        (String.ofList (dropDot (Path.below root (front ++ more)).toList)) isDir =
      (⟨".", rules⟩ : RuleFile).verdict ("/".intercalate more) isDir := by
  have hdot := not_beginsWithDot_intercalate (List.forall_mem_append.mp hnames).2 hne []
  rw [List.append_nil] at hdot
  rw [verdict, verdict, localPath_below hempty hroot hnames hne,
    localPath_of_dot rfl hdot]

/-- A file without rules decides nothing. -/
lemma verdict_of_nil {file : RuleFile} (h : file.rules = []) (path : String) (isDir : Bool) :
    file.verdict path isDir = .undecided := by
  rw [verdict, h]
  rfl

end RuleFile

/-! ## The files of a tree -/

/-- Whether an entry is a directory. -/
def Entry.isDir : Entry → Bool
  | .dir _ => true
  | _ => false

namespace Entry

/-- The rules in the file to which names lead in a tree; none when there is no such file. -/
def rulesAt (content : Entry) (names : List String) : List IgnoreRule :=
  match content.at? names with
  | some (.file bytes) => (RuleFile.ofContent "." bytes).rules
  | _ => []

/-- What the files of one kind, each at the same names below its directory, say about the entry
with a name in a directory of a tree: the deepest that says anything decides. -/
def verdictOf (content : Entry) (file before : List String) (name : String) (isDir : Bool) :
    Verdict :=
  Verdict.first (before.inits.reverse.map fun front =>
    (⟨".", content.rulesAt (front ++ file)⟩ : RuleFile).verdict
      ("/".intercalate (before.drop front.length ++ [name])) isDir)

/-- What the ignore files in a tree say about the entry with a name in a directory of it. -/
def verdict (content : Entry) (before : List String) (name : String) (isDir : Bool) : Verdict :=
  Verdict.first [content.verdictOf [".ignore"] before name isDir,
    content.verdictOf [".gitignore"] before name isDir,
    content.verdictOf [".git", "info", "exclude"] before name isDir]

end Entry

section Tree

variable {fs : FileSystem} {root : String} {content : Entry}

/-- A file without content has no rules. -/
lemma RuleFile.ofContent_empty (directory : String) :
    RuleFile.ofContent directory .empty = ⟨directory, []⟩ := by
  have hlines : Text.byteLines .empty = [] := by
    rw [Text.byteLines, Text.toList_eq_data]
    rfl
  rw [RuleFile.ofContent, hlines]
  rfl

/-- A path below a root leads to a file if and only if the names do in the tree. -/
lemma FileSystem.HasTree.isFile_join_iff (h : fs.HasTree root content) (hlinks : content.LinkFree)
    {front : List String} {name : String} (hfront : ∀ n ∈ front, Path.IsFileName n)
    (hname : Path.IsFileName name) :
    fs.isFile (Path.join (Path.below root front) name) = true ↔
      ∃ bytes, content.at? (front ++ [name]) = some (.file bytes) := by
  rw [isFile_iff, ← Path.below_concat]
  refine exists_congr fun bytes => h.entry_below_iff hlinks ?_
  exact List.forall_mem_append.mpr ⟨hfront, List.forall_mem_singleton.mpr hname⟩

/-- **The rules of a file below a root** are those in the tree. -/
lemma RuleFile.load_below (h : fs.HasTree root content) (hlinks : content.LinkFree)
    {names : List String} (hnames : ∀ name ∈ names, Path.IsFileName name) (directory : String) :
    RuleFile.load fs directory (Path.below root names) = ⟨directory, content.rulesAt names⟩ := by
  have hiff := fun e => h.entry_below_iff (e := e) hlinks hnames
  rw [RuleFile.load, FileSystem.read, Entry.rulesAt]
  cases hat : content.at? names with
  | none =>
    cases hentry : fs.entry (Path.below root names) with
    | error e => rfl
    | ok e => simp [(hiff e).mp hentry] at hat
  | some e =>
    rw [(hiff e).mpr hat]
    cases e with
    | link target => exact absurd hat (hlinks names target)
    | fullDevice => exact RuleFile.ofContent_empty directory
    | _ => rfl

/-- The rules kept in a directory below a root. Those of its own repository are kept in the tree,
unless a file says that they are elsewhere. -/
lemma DirectoryRules.load_below (h : fs.HasTree root content) (hlinks : content.LinkFree)
    (front : List String) (hfront : ∀ name ∈ front, Path.IsFileName name) :
    (DirectoryRules.load fs (Path.below root front)).general =
        ⟨Path.below root front, content.rulesAt (front ++ [".ignore"])⟩ ∧
      (DirectoryRules.load fs (Path.below root front)).shared =
        ⟨Path.below root front, content.rulesAt (front ++ [".gitignore"])⟩ ∧
      (fs.isFile (Path.join (Path.below root front) ".git") = false →
        (DirectoryRules.load fs (Path.below root front)).own =
          ⟨Path.below root front, content.rulesAt (front ++ [".git", "info", "exclude"])⟩) := by
  have hload : ∀ names : List String, (∀ name ∈ names, Path.IsFileName name) →
      RuleFile.load fs (Path.below root front) (Path.below root (front ++ names)) =
        ⟨Path.below root front, content.rulesAt (front ++ names)⟩ := by
    intro names hnames
    exact RuleFile.load_below h hlinks (List.forall_mem_append.mpr ⟨hfront, hnames⟩) _
  refine ⟨?_, ?_, fun hgit => ?_⟩
  · rw [← hload [".ignore"] (by decide), Path.below_concat]
    rfl
  · rw [← hload [".gitignore"] (by decide), Path.below_concat]
    rfl
  · have hdirectory := Path.below_ne_empty (FileSystem.ne_empty_of_entry h.entry) hfront
    have hjoin : Path.join (Path.join (Path.below root front) ".git") "info/exclude" =
        Path.below root (front ++ [".git", "info", "exclude"]) := by
      have hrepository : Path.join (Path.below root front) ".git" ≠ "" :=
        Path.join_ne_empty hdirectory (by decide)
      rw [Path.below_append, Path.below_cons, Path.join_eq_slashed_append hrepository (by decide),
        Path.below_eq_slashed_append hrepository (by decide) (List.cons_ne_nil _ _)]
      rfl
    rw [← hload [".git", "info", "exclude"] (by decide), ← hjoin]
    simp only [DirectoryRules.load, Git.repository?, hgit, Bool.false_eq_true, if_false]

end Tree

/-! ## The rules on the way to an entry -/

namespace IgnoreRules

/-- The rules that hold in the directory to which names lead from a root; `rulesIn` are the rules
kept in a directory. -/
def inside (rulesIn : String → DirectoryRules) (rules : IgnoreRules) (root : String) :
    List String → IgnoreRules
  | [] => rules.enter (rulesIn root)
  | name :: names => inside rulesIn (rules.enter (rulesIn root)) (Path.join root name) names

/-- They are those of the directories on the way, the deepest first, and those from before. -/
lemma inside_eq (rulesIn : String → DirectoryRules) (rules : IgnoreRules) (root : String)
    (names : List String) :
    rules.inside rulesIn root names =
      { rules with
        inner := (names.inits.reverse.map fun front => rulesIn (Path.below root front)) ++
          rules.inner } := by
  induction names generalizing rules root with
  | nil => rfl
  | cons name names ih =>
    rw [inside, ih]
    simp [enter, Function.comp_def]

variable {rules : IgnoreRules} {content : Entry} {path : String} {isDir : Bool}

/-- What the files of one kind say about an entry is said by those in the tree, where those outside
say nothing. -/
lemma verdictOf_inside {rulesIn : String → DirectoryRules} {root : String}
    {kind : DirectoryRules → RuleFile} {file before : List String} {name : String}
    (hinner : rules.inner = []) (houter : rules.verdictOf kind path isDir = .undecided)
    (hkind : ∀ front back, before = front ++ back →
      (kind (rulesIn (Path.below root front))).verdict path isDir =
        (⟨".", content.rulesAt (front ++ file)⟩ : RuleFile).verdict
          ("/".intercalate (back ++ [name])) isDir) :
    (rules.inside rulesIn root before).verdictOf kind path isDir =
      content.verdictOf file before name isDir := by
  rw [verdictOf, hinner, List.map_nil, List.nil_append] at houter
  rw [inside_eq, verdictOf, hinner, List.append_nil, Verdict.first_append]
  change Verdict.orElse _ (Verdict.first (rules.outer.map fun d =>
    (kind d).verdict (rules.absolute path) isDir)) = _
  rw [houter, Verdict.orElse_undecided, Entry.verdictOf, List.map_map]
  congr 1
  refine List.map_congr_left fun front hfront => ?_
  obtain ⟨back, rfl⟩ := (List.mem_inits front before).mp (List.mem_reverse.mp hfront)
  rw [Function.comp_apply, hkind front back rfl, List.drop_left]

end IgnoreRules

/-- Whether no ignore file outside the tree at a root says anything about an entry of the tree:
none in the directories above the root, not the one of the user, and none of a repository that is
kept elsewhere, as a file in place of its directory says. -/
structure FileSystem.Undisturbed (fs : FileSystem) (env : Environment) (root : String)
    (content : Entry) : Prop where
  above : ∀ names found, names ≠ [] → content.at? names = some found →
    (IgnoreRules.above fs env root).verdict (Path.below root names) found.isDir = .undecided
  elsewhere : ∀ front names found, names ≠ [] → content.at? (front ++ names) = some found →
    fs.isFile (Path.join (Path.below root front) ".git") = true →
    (DirectoryRules.load fs (Path.below root front)).own.verdict
      (String.ofList (RuleFile.dropDot (Path.below root (front ++ names)).toList)) found.isDir =
        .undecided

section Tree

variable {fs : FileSystem} {env : Environment} {root : String} {content : Entry}

/-- Above the root there are no rules of inner directories. -/
lemma IgnoreRules.inner_above (fs : FileSystem) (env : Environment) (root : String) :
    (above fs env root).inner = [] := by
  rw [above]
  split <;> rfl

/-- Nothing outside a tree says anything about it if there are no rules above its root, the user
has none, and no repository is kept elsewhere. -/
lemma FileSystem.undisturbed_of_noRules (h : fs.HasTree root content) (hlinks : content.LinkFree)
    (hproper : content.Proper)
    (hgit : ∀ front bytes, content.at? (front ++ [".git"]) ≠ some (.file bytes))
    (houter : ∀ directory ∈ (IgnoreRules.above fs env root).outer, directory.general.rules = [] ∧
      directory.shared.rules = [] ∧ directory.own.rules = [])
    (huser : (IgnoreRules.above fs env root).user.rules = []) :
    fs.Undisturbed env root content where
  above := by
    intro names found _ _
    simp only [IgnoreRules.verdict, IgnoreRules.verdictOf, Verdict.first_eq_undecided_iff,
      IgnoreRules.inner_above, List.map_nil, List.nil_append, List.forall_mem_cons,
      List.forall_mem_map, List.not_mem_nil, false_imp_iff, implies_true, and_true]
    exact ⟨fun d hd => RuleFile.verdict_of_nil (houter d hd).1 _ _,
      fun d hd => RuleFile.verdict_of_nil (houter d hd).2.1 _ _,
      fun d hd => RuleFile.verdict_of_nil (houter d hd).2.2 _ _, RuleFile.verdict_of_nil huser _ _⟩
  elsewhere := by
    intro front names found _ hat hfile
    have hfront := (List.forall_mem_append.mp (hproper.at? hat).1).1
    obtain ⟨bytes, hgitFile⟩ := (h.isFile_join_iff hlinks hfront (by decide)).mp hfile
    exact absurd hgitFile (hgit front bytes)

/-- Where a file stands for the directory of the repository there is nothing in it. -/
lemma Entry.rulesAt_exclude (h : fs.HasTree root content) (hlinks : content.LinkFree)
    {front : List String} (hfront : ∀ name ∈ front, Path.IsFileName name)
    (hgit : fs.isFile (Path.join (Path.below root front) ".git") = true) :
    content.rulesAt (front ++ [".git", "info", "exclude"]) = [] := by
  obtain ⟨bytes, hfile⟩ := (h.isFile_join_iff hlinks hfront (by decide)).mp hgit
  have hnone : content.at? (front ++ [".git", "info", "exclude"]) = none := by
    rw [List.append_cons front ".git", Entry.at?_append, hfile]
    rfl
  rw [rulesAt, hnone]

/-- What the files in one directory of a tree say about an entry below the directory. -/
lemma DirectoryRules.verdict_below (h : fs.HasTree root content) (hlinks : content.LinkFree)
    (hroot : ¬ Path.DotsTwice root) (houtside : fs.Undisturbed env root content)
    {names front back : List String} {found : Entry} (hsplit : names = front ++ back)
    (hnames : ∀ name ∈ names, Path.IsFileName name) (hne : back ≠ [])
    (hat : content.at? names = some found) :
    let path := String.ofList (RuleFile.dropDot (Path.below root names).toList)
    let rulesOf := fun file : List String => (⟨".", content.rulesAt (front ++ file)⟩ : RuleFile)
    (load fs (Path.below root front)).general.verdict path found.isDir =
        (rulesOf [".ignore"]).verdict ("/".intercalate back) found.isDir ∧
      (load fs (Path.below root front)).shared.verdict path found.isDir =
        (rulesOf [".gitignore"]).verdict ("/".intercalate back) found.isDir ∧
      (load fs (Path.below root front)).own.verdict path found.isDir =
        (rulesOf [".git", "info", "exclude"]).verdict ("/".intercalate back) found.isDir := by
  intro path rulesOf
  subst hsplit
  have hfront := (List.forall_mem_append.mp hnames).1
  have hfile := fun file : List String => RuleFile.verdict_below
    (FileSystem.ne_empty_of_entry h.entry) hroot hnames hne (content.rulesAt (front ++ file))
    found.isDir
  obtain ⟨hgeneral, hshared, hown⟩ := load_below h hlinks front hfront
  refine ⟨?_, ?_, ?_⟩
  · rw [hgeneral, hfile]
  · rw [hshared, hfile]
  · by_cases hgit : fs.isFile (Path.join (Path.below root front) ".git") = true
    · rw [houtside.elsewhere front back found hne hat hgit]
      exact (RuleFile.verdict_of_nil (Entry.rulesAt_exclude h hlinks hfront hgit) _ _).symm
    · rw [hown (Bool.eq_false_iff.mpr hgit), hfile]

/-- **What rules say about an entry below a root** is what the ignore files in the tree say, where
no file outside says anything.

**Proof sketch.** The rules that hold for an entry are those of the directories on the way to it
(`IgnoreRules.inside_eq`) and those outside, which decide nothing. The former see paths relative to
their directories. -/
lemma IgnoreRules.verdict_inside (h : fs.HasTree root content) (hlinks : content.LinkFree)
    (hroot : ¬ Path.DotsTwice root) (houtside : fs.Undisturbed env root content)
    {before : List String} {name : String} {found : Entry}
    (hnames : ∀ n ∈ before ++ [name], Path.IsFileName n)
    (hat : content.at? (before ++ [name]) = some found) :
    ((above fs env root).inside (DirectoryRules.load fs) root before).verdict
        (Path.below root (before ++ [name])) found.isDir =
      content.verdict before name found.isDir := by
  have hundecided := houtside.above _ found (by simp) hat
  rw [verdict, Verdict.first_eq_undecided_iff] at hundecided
  simp only [List.forall_mem_cons, List.not_mem_nil, false_imp_iff, implies_true, and_true]
    at hundecided
  obtain ⟨hgeneral, hshared, hown, huser⟩ := hundecided
  have hfiles := fun front back (hbefore : before = front ++ back) =>
    DirectoryRules.verdict_below h hlinks hroot houtside
      (by rw [hbefore, List.append_assoc] : before ++ [name] = front ++ (back ++ [name])) hnames
      (by simp) hat
  have hinner := inner_above fs env root
  have huser' : ((above fs env root).inside (DirectoryRules.load fs) root before).user =
      (above fs env root).user := by rw [inside_eq]
  rw [verdict, Entry.verdict, huser', huser,
    verdictOf_inside hinner hgeneral fun front back hbefore => (hfiles front back hbefore).1,
    verdictOf_inside hinner hshared fun front back hbefore => (hfiles front back hbefore).2.1,
    verdictOf_inside hinner hown fun front back hbefore => (hfiles front back hbefore).2.2]
  simp [Verdict.first]

end Tree

end CodeCatalog
