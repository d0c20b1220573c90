import Mathlib.Tactic.Lemma
import Mathlib.Tactic.MkIffOfInductiveProp
import Mathlib.Tactic.SplitIfs
import CodeCatalog.Proofs.Files.Lookup
import CodeCatalog.Proofs.Text.Bytes

/-!
# Paths and their components

A path that is put together from a root and names has the components of the root and then the
names, however the root is spelled. The path above another one has its meaningful parts.

## Main definitions

* `CodeCatalog.Path.IsFileName` — the names that entries of directories have.
* `CodeCatalog.Path.below` — the path that leads from a root through names.
* `CodeCatalog.Path.Precedes` — the order of paths, component by component.

## Main results

* `CodeCatalog.Path.splitSlash_append_slash` — a text is cut at a slash.
* `CodeCatalog.Path.intercalate_splitSlash`, `splitSlash_intercalate` — cutting and joining.
* `CodeCatalog.Path.components_join`, `components_below` — the components of a path that was put
  together.
* `CodeCatalog.Path.parent?_of_front` — the path above another one.
* `CodeCatalog.Path.precedes_of_components` — the first different names decide about the order.
-/

namespace CodeCatalog.Path

/-- The names that entries of directories have. -/
@[mk_iff]
structure IsFileName (name : String) : Prop where
  ne_empty : name ≠ ""
  noSlash : '/' ∉ name.toList
  ne_dot : name ≠ "."
  ne_dots : name ≠ ".."

instance : DecidablePred IsFileName := fun name => decidable_of_iff _ (isFileName_iff name).symm

/-! ## Cutting at slashes -/

/-- Cutting at one slash splits the work. -/
lemma splitSlashFrom_append_slash (part xs ys : List Char) :
    splitSlashFrom part (xs ++ '/' :: ys) = splitSlashFrom part xs ++ splitSlashFrom [] ys := by
  induction xs generalizing part with
  | nil => simp [splitSlashFrom]
  | cons c xs ih =>
    rw [List.cons_append, splitSlashFrom, splitSlashFrom]
    split_ifs
    · rw [ih, List.cons_append]
    · exact ih (c :: part)

/-- Without slashes there is one part. -/
lemma splitSlashFrom_of_not_mem {xs : List Char} (h : '/' ∉ xs) (part : List Char) :
    splitSlashFrom part xs = [part.reverse ++ xs] := by
  induction xs generalizing part with
  | nil => rw [splitSlashFrom, List.append_nil]
  | cons c xs ih =>
    rw [List.mem_cons, not_or] at h
    rw [splitSlashFrom, if_neg (Ne.symm h.1), ih h.2, List.reverse_cons, List.append_assoc,
      List.singleton_append]

/-- A text is cut at a slash. -/
lemma splitSlash_append_slash (a b : String) :
    splitSlash (a ++ "/" ++ b) = splitSlash a ++ splitSlash b := by
  have hslash : (a ++ "/" ++ b).toList = a.toList ++ '/' :: b.toList := by
    simp [String.toList_append]
  rw [splitSlash, hslash, splitSlashFrom_append_slash, List.map_append, splitSlash, splitSlash]

/-- A text without slashes is not cut. -/
lemma splitSlash_of_not_mem {s : String} (h : '/' ∉ s.toList) : splitSlash s = [s] := by
  rw [splitSlash, splitSlashFrom_of_not_mem h]
  simp

/-- There are no slashes in the parts. -/
lemma not_mem_of_mem_splitSlashFrom {part cs xs : List Char} (hpart : '/' ∉ part)
    (h : xs ∈ splitSlashFrom part cs) : '/' ∉ xs := by
  induction cs generalizing part with
  | nil =>
    obtain rfl : xs = part.reverse := by simpa [splitSlashFrom] using h
    simpa using hpart
  | cons c cs ih =>
    rw [splitSlashFrom] at h
    split_ifs at h with hc
    · rcases List.mem_cons.mp h with rfl | h
      · simpa using hpart
      · exact ih List.not_mem_nil h
    · exact ih (by simpa [hpart] using Ne.symm hc) h

/-- The parts of a path have no slashes. -/
lemma not_mem_of_mem_splitSlash {s part : String} (h : part ∈ splitSlash s) :
    '/' ∉ part.toList := by
  obtain ⟨xs, hxs, rfl⟩ := List.mem_map.mp h
  rw [String.toList_ofList]
  exact not_mem_of_mem_splitSlashFrom List.not_mem_nil hxs

/-- The parts with slashes between them are the path. -/
lemma intercalate_splitSlashFrom (part cs : List Char) :
    ['/'].intercalate (splitSlashFrom part cs) = part.reverse ++ cs := by
  induction cs generalizing part with
  | nil => simp [splitSlashFrom]
  | cons c cs ih =>
    rw [splitSlashFrom]
    split_ifs with hc
    · rw [List.intercalate_cons_of_ne_nil (splitSlashFrom_ne_nil [] cs), ih, hc]
      simp
    · rw [ih]
      simp

/-- Joined by slashes the parts of a path are the path. -/
lemma intercalate_splitSlash (s : String) : "/".intercalate (splitSlash s) = s := by
  rw [← String.toList_inj, String.toList_intercalate, splitSlash, List.map_map]
  have hlists : (splitSlashFrom [] s.toList).map (String.toList ∘ String.ofList) =
      splitSlashFrom [] s.toList := by
    simp [Function.comp_def]
  rw [hlists]
  exact intercalate_splitSlashFrom [] s.toList

/-- Parts that are joined by slashes are the parts of the path. -/
lemma splitSlash_intercalate {part : String} {parts : List String}
    (h : ∀ p ∈ part :: parts, '/' ∉ p.toList) :
    splitSlash ("/".intercalate (part :: parts)) = part :: parts := by
  induction parts generalizing part with
  | nil => rw [String.intercalate_singleton, splitSlash_of_not_mem (h part List.mem_cons_self)]
  | cons next parts ih =>
    obtain ⟨hpart, hparts⟩ := List.forall_mem_cons.mp h
    rw [String.intercalate_cons_cons, splitSlash_append_slash, splitSlash_of_not_mem hpart,
      ih hparts, List.singleton_append]

/-- A slash at the end is followed by an empty part. -/
lemma splitSlash_slash (a : String) : splitSlash (a ++ "/") = splitSlash a ++ [""] := by
  have h := splitSlash_append_slash a ""
  rwa [String.append_empty] at h

/-- Where a path begins is said by its front, unless that is empty. -/
lemma isAbsolute_append {a : String} (ha : a ≠ "") (b : String) :
    isAbsolute (a ++ b) = isAbsolute a := by
  have hne : a.toList ≠ [] := by simpa using ha
  rw [isAbsolute, isAbsolute, String.toList_append, List.head?_append,
    List.head?_eq_some_head hne, Option.some_or]

/-! ## Components -/

/-- Whether a part of a path counts wherever it stands. -/
def isMeaningful (part : String) : Bool := part != "" && part != "."

/-- A file name means something as a part of a path. -/
lemma IsFileName.isMeaningful {name : String} (h : IsFileName name) :
    isMeaningful name = true := by
  simp [Path.isMeaningful, h.ne_empty, h.ne_dot]

/-- A file name is no absolute path. -/
lemma IsFileName.not_isAbsolute {name : String} (h : IsFileName name) :
    isAbsolute name = false := by
  rw [isAbsolute, beq_eq_false_iff_ne]
  intro hslash
  exact h.noSlash (List.mem_of_head? hslash)

/-- What the begin of a path adds to its meaningful parts. -/
def anchor (path : String) : List String :=
  if isAbsolute path then ["/"] else if (splitSlash path).head? = some "." then ["."] else []

/-- The components of a path are its anchor and the parts that mean something. -/
lemma components_eq (path : String) :
    components path = anchor path ++ (splitSlash path).filter isMeaningful := by
  rw [components, anchor]
  split_ifs with habs hdot
  · rfl
  · cases hsplit : splitSlash path with
    | nil => simp [hsplit] at hdot
    | cons part rest =>
      obtain rfl : part = "." := by simpa [hsplit] using hdot
      simp [isMeaningful]
      rfl
  · split
    · simp_all
    · rfl

/-- What a path begins with is not changed by what stands behind its first slash. -/
lemma head?_splitSlash_slash_append (a b : String) :
    (splitSlash (a ++ "/" ++ b)).head? = (splitSlash a).head? := by
  rw [splitSlash_append_slash, List.head?_append,
    List.head?_eq_some_head (splitSlash_ne_nil a), Option.some_or]

/-- The components of a path are those of its front and then the parts behind a slash. -/
lemma components_slash_append (a b : String) :
    components (a ++ "/" ++ b) =
      components (a ++ "/") ++ (splitSlash b).filter isMeaningful := by
  have hanchor : anchor (a ++ "/" ++ b) = anchor (a ++ "/") := by
    rw [anchor, anchor, isAbsolute_append (by simp), head?_splitSlash_slash_append,
      ← String.append_empty (s := a ++ "/"), head?_splitSlash_slash_append]
  rw [components_eq, components_eq (a ++ "/"), hanchor, splitSlash_append_slash,
    splitSlash_slash]
  simp [isMeaningful]

/-- A slash at the end of a path carries no meaning. -/
lemma components_slash {a : String} (ha : a ≠ "") : components (a ++ "/") = components a := by
  have hanchor : anchor (a ++ "/") = anchor a := by
    rw [anchor, anchor, isAbsolute_append ha, ← String.append_empty (s := a ++ "/"),
      head?_splitSlash_slash_append]
  rw [components_eq, components_eq, hanchor, splitSlash_slash]
  simp [isMeaningful]

/-- A name is a path with one component. -/
lemma IsFileName.components {name : String} (h : IsFileName name) :
    components name = [name] := by
  rw [components_eq, anchor, h.not_isAbsolute, splitSlash_of_not_mem h.noSlash]
  simp [h.isMeaningful, h.ne_dot]

/-- **The components of a path and one more name.** -/
lemma components_join (base : String) {name : String} (hname : IsFileName name) :
    components (join base name) = components base ++ [name] := by
  have hsplit : (splitSlash name).filter isMeaningful = [name] := by
    rw [splitSlash_of_not_mem hname.noSlash, List.filter_cons_of_pos hname.isMeaningful,
      List.filter_nil]
  rw [join, if_neg (by rw [hname.not_isAbsolute]; exact Bool.false_ne_true)]
  split_ifs with hbase hslash
  · rw [String.isEmpty_iff.mp hbase, hname.components]
    rfl
  · obtain ⟨front, hfront⟩ := List.getLast?_eq_some_iff.mp (beq_iff_eq.mp hslash)
    obtain rfl : base = String.ofList front ++ "/" := by
      rw [String.ext_iff, hfront, String.toList_append, String.toList_ofList]
      rfl
    rw [components_slash_append, hsplit]
  · rw [components_slash_append, components_slash (by simpa using hbase), hsplit]

/-! ## Below a path -/

/-- The path that leads from a root through names. -/
def below (root : String) (names : List String) : String := names.foldl join root

/-- Going down by no names stays at the root. -/
@[simp] lemma below_nil (root : String) : below root [] = root := rfl

/-- Going down by names is joining the first and going down by the others. -/
@[simp] lemma below_cons (root name : String) (names : List String) :
    below root (name :: names) = below (join root name) names := rfl

/-- **The components of a path below a root.** -/
lemma components_below (root : String) {names : List String}
    (hnames : ∀ name ∈ names, IsFileName name) :
    components (below root names) = components root ++ names := by
  induction names generalizing root with
  | nil => rw [below_nil, List.append_nil]
  | cons name names ih =>
    obtain ⟨hname, hrest⟩ := List.forall_mem_cons.mp hnames
    rw [below_cons, ih _ hrest, components_join root hname, List.append_assoc,
      List.singleton_append]

/-! ## Above a path -/

/-- A path is absolute if nothing stands before its first slash. -/
lemma isAbsolute_iff {path first : String} {rest : List String}
    (h : splitSlash path = first :: rest) : isAbsolute path = true ↔ first = "" ∧ rest ≠ [] := by
  have hpath := intercalate_splitSlash path
  have hfirst : '/' ∉ first.toList := not_mem_of_mem_splitSlash (h ▸ List.mem_cons_self)
  have hrelative : isAbsolute first = false := by
    rw [isAbsolute, beq_eq_false_iff_ne]
    exact fun hslash => hfirst (List.mem_of_head? hslash)
  rw [h] at hpath
  by_cases hrest : rest = []
  · subst hrest
    rw [String.intercalate_singleton] at hpath
    simp [← hpath, hrelative]
  · rw [String.intercalate_cons_of_ne_nil hrest] at hpath
    by_cases hempty : first = ""
    · rw [← hpath, hempty]
      simp [isAbsolute, String.toList_append, hrest]
    · rw [← hpath, String.append_assoc, isAbsolute_append hempty, hrelative]
      simp [hempty]

/-- The path above one that has a name behind its front. -/
lemma parent?_eq {path name : String} {front : List String} (hname : isMeaningful name = true)
    (h : splitSlash path = front ++ [name]) :
    parent? path = some (ofComponents (anchor path ++ front.filter isMeaningful)) := by
  have hslash : '/' ∉ name.toList := not_mem_of_mem_splitSlash (s := path) (by simp [h])
  have hcomponents : components path = anchor path ++ front.filter isMeaningful ++ [name] := by
    rw [components_eq, h, List.filter_append, List.filter_cons_of_pos hname, List.filter_nil,
      List.append_assoc]
  rw [parent?, hcomponents, List.reverse_append, List.reverse_singleton, List.singleton_append]
  split
  · rename_i hnil
    cases hnil
  · rename_i hroot
    obtain ⟨rfl, -⟩ := List.cons.inj hroot
    exact absurd List.mem_cons_self hslash
  · rename_i hcons
    obtain ⟨-, rfl⟩ := List.cons.inj hcons
    rw [List.reverse_reverse]

/-- A name stands in no other directory. -/
lemma parent?_of_name {path name : String} (hname : isMeaningful name = true)
    (h : splitSlash path = [name]) : parent? path = some "" := by
  have hanchor : anchor path = [] := by
    have hrelative : ¬ isAbsolute path = true := by simp [isAbsolute_iff h]
    have hdot : name ≠ "." := by
      rintro rfl
      cases hname
    rw [anchor, if_neg hrelative, h, if_neg (by simpa using hdot)]
  rw [parent?_eq hname (h.trans (List.nil_append _).symm), hanchor]
  rfl

/-- Components without an anchor are joined with slashes. -/
lemma ofComponents_cons {first : String} (h : '/' ∉ first.toList) (rest : List String) :
    ofComponents (first :: rest) = "/".intercalate (first :: rest) := by
  have hne : first ≠ "/" := by
    rintro rfl
    exact h List.mem_cons_self
  rw [ofComponents]
  exact fun _ heq => hne (List.cons.inj heq).1

/-- The parts of the path above another one are its first one and the meaningful ones. -/
lemma parent?_of_front {path name first : String} {front : List String}
    (hname : isMeaningful name = true) (h : splitSlash path = first :: front ++ [name]) :
    parent? path = some (if first = "" ∧ front.filter isMeaningful = [] then "/"
      else "/".intercalate (first :: front.filter isMeaningful)) := by
  have hslash : '/' ∉ first.toList := not_mem_of_mem_splitSlash (s := path) (by simp [h])
  have habsolute := isAbsolute_iff h
  rw [parent?_eq hname h, anchor]
  by_cases hempty : first = ""
  · subst hempty
    rw [if_pos (habsolute.mpr ⟨rfl, by simp⟩), List.filter_cons_of_neg (by decide),
      List.singleton_append, ofComponents]
    split_ifs with hnil
    · rw [hnil.2]
      rfl
    · rw [String.intercalate_cons_of_ne_nil fun hnil' => hnil ⟨rfl, hnil'⟩, String.empty_append]
  · have hrelative : ¬ isAbsolute path = true := fun habs => hempty (habsolute.mp habs).1
    rw [if_neg hrelative, if_neg (not_and_of_not_left _ hempty), h, List.cons_append,
      List.head?_cons]
    split_ifs with hdot
    · obtain rfl : first = "." := Option.some.inj hdot
      rw [List.filter_cons_of_neg (by decide), List.singleton_append, ofComponents_cons hslash]
    · have hfirst : isMeaningful first = true := by
        simpa [isMeaningful, hempty] using hdot
      rw [List.filter_cons_of_pos hfirst, List.nil_append, ofComponents_cons hslash]

/-! ## Shorter paths -/

/-- The bytes of joined parts: those of the parts and one for each slash. -/
lemma utf8ByteSize_intercalate_cons (part : String) (parts : List String) :
    ("/".intercalate (part :: parts)).utf8ByteSize =
      part.utf8ByteSize + if parts = [] then 0 else 1 + ("/".intercalate parts).utf8ByteSize := by
  cases parts with
  | nil => rw [String.intercalate_singleton, if_pos rfl, Nat.add_zero]
  | cons next parts =>
    rw [String.intercalate_cons_cons, String.utf8ByteSize_append, String.utf8ByteSize_append,
      if_neg (List.cons_ne_nil _ _), Nat.add_assoc]
    rfl

/-- A path with fewer parts is no longer. -/
lemma utf8ByteSize_intercalate_le {parts parts' : List String} (h : parts.Sublist parts') :
    ("/".intercalate parts).utf8ByteSize ≤ ("/".intercalate parts').utf8ByteSize := by
  induction h with
  | slnil => exact Nat.le_refl _
  | @cons parts parts' part h ih =>
    rw [utf8ByteSize_intercalate_cons]
    split_ifs with hnil
    · rw [hnil] at ih
      exact Nat.le_trans ih (Nat.zero_le _)
    · omega
  | @cons_cons parts parts' part h ih =>
    rw [utf8ByteSize_intercalate_cons, utf8ByteSize_intercalate_cons]
    split_ifs with hnil hnil' hnil'
    · exact Nat.le_refl _
    · omega
    · rw [hnil'] at h
      exact absurd (List.sublist_nil.mp h) hnil
    · omega

/-- Apart from the slashes, the characters of a path are those of its parts. -/
lemma mem_intercalate_iff {parts : List String} {c : Char} (hc : c ≠ '/') :
    c ∈ ("/".intercalate parts).toList ↔ ∃ part ∈ parts, c ∈ part.toList := by
  induction parts with
  | nil => simp
  | cons part parts ih =>
    cases parts with
    | nil => simp
    | cons next parts =>
      rw [String.intercalate_cons_cons, String.toList_append, String.toList_append,
        List.mem_append, List.mem_append, ih]
      simp [hc]

/-! ## The order of paths -/

/-- The components of a path as bytes. -/
def componentBytes (path : String) : List (List UInt8) :=
  (components path).map fun part => part.toUTF8.toList

/-- The order of paths: component by component, by their bytes. -/
def Precedes (p q : String) : Prop := componentBytes p < componentBytes q

instance : Std.Asymm Precedes := ⟨fun _ _ => List.lt_asymm⟩

/-- Paths that have the same components up to some place are in the order of the names there. -/
lemma precedes_of_components {p q : String} {front back back' : List String}
    {name name' : String} (hp : components p = front ++ name :: back)
    (hq : components q = front ++ name' :: back') (h : name < name') : Precedes p q := by
  rw [Precedes, componentBytes, componentBytes, hp, hq, List.map_append, List.map_append,
    List.map_cons, List.map_cons]
  exact List.append_left_lt (List.cons_lt_cons_iff.mpr (Or.inl (Text.toUTF8_lt h)))

end CodeCatalog.Path
