import Mathlib.Data.List.Infix
import Mathlib.Tactic.Lemma
import CodeCatalog.Discovery.Glob

/-!
# Excluded paths in directories

A glob pattern is tried on a path and on what stands behind each of its slashes, a text is looked
for anywhere in it. Both go on to match when a directory is put in front of the path, whatever the
matcher for single texts accepts and wherever slashes are doubled.

## Main definitions

* `CodeCatalog.PathPattern.acceptsEnd` — trying a matcher on the ends of a path.

## Main results

* `CodeCatalog.PathPattern.acceptsEnd_iff` — the texts that are tried.
* `CodeCatalog.PathPattern.acceptsEnd_below` — a path that is accepted is accepted in every
  directory.
* `CodeCatalog.PathPattern.isMatch_stable` — the same for patterns and lists of patterns.
-/

namespace CodeCatalog.PathPattern

/-! ## Ends of paths -/

/-- The ends of a path behind its slashes. -/
lemma mem_endsBehind_iff {e path : List Char} :
    e ∈ ends.endsBehind path ↔ ∃ front, path = front ++ '/' :: e := by
  induction path with
  | nil => simp [ends.endsBehind]
  | cons c cs ih =>
    have hcons : (∃ front, c :: cs = front ++ '/' :: e) ↔
        (c = '/' ∧ cs = e) ∨ ∃ front, cs = front ++ '/' :: e := by
      constructor
      · rintro ⟨front, hfront⟩
        cases front with
        | nil => exact Or.inl (List.cons.inj hfront)
        | cons d front => exact Or.inr ⟨front, (List.cons.inj hfront).2⟩
      · rintro (⟨rfl, rfl⟩ | ⟨front, rfl⟩)
        · exact ⟨[], rfl⟩
        · exact ⟨c :: front, rfl⟩
    rw [hcons, ends.endsBehind]
    by_cases hc : c = '/'
    · rw [if_pos hc, List.mem_cons, ih]
      simp only [hc, true_and, eq_comm]
    · rw [if_neg hc, ih]
      simp only [hc, false_and, false_or]

/-- The ends of a path are what stands behind the slashes of the path with one more in front. -/
lemma mem_ends_iff {e path : List Char} :
    e ∈ ends path ↔ ∃ front, '/' :: path = front ++ '/' :: e := by
  rw [← mem_endsBehind_iff, ends.endsBehind, if_pos rfl]
  cases path with
  | nil => simp [ends, ends.endsBehind]
  | cons c cs => rfl

/-- Whether a matcher accepts a path without the slashes at its begin, or an end of it. -/
def acceptsEnd (accepts : List Char → Bool) (path : List Char) : Bool :=
  (ends (path.dropWhile (· == '/'))).any accepts

/-- A glob pattern is a matcher that is tried on the ends of a path. -/
lemma isMatch_glob (g : Glob) (path : String) :
    (glob g).isMatch path =
      acceptsEnd (fun e => Glob.isMatch g (String.ofList e).toUTF8.toList) path.toList :=
  rfl

section AcceptsEnd

variable (accepts : List Char → Bool) (path : List Char)

/-- The texts on which a matcher is tried. -/
lemma acceptsEnd_iff :
    acceptsEnd accepts path ↔
      ∃ front e, '/' :: path.dropWhile (· == '/') = front ++ '/' :: e ∧ accepts e := by
  rw [acceptsEnd, List.any_eq_true]
  constructor
  · rintro ⟨e, he, haccepts⟩
    obtain ⟨front, hfront⟩ := mem_ends_iff.mp he
    exact ⟨front, e, hfront, haccepts⟩
  · rintro ⟨front, e, hfront, haccepts⟩
    exact ⟨e, mem_ends_iff.mpr ⟨front, hfront⟩, haccepts⟩

/-- Slashes at the begin of a path do not matter. -/
lemma acceptsEnd_slashes (n : Nat) :
    acceptsEnd accepts (List.replicate n '/' ++ path) = acceptsEnd accepts path := by
  rw [acceptsEnd, List.dropWhile_append_of_pos, acceptsEnd]
  intro c hc
  simpa using List.eq_of_mem_replicate hc

/-- A path is some slashes and what it is without them. -/
lemma exists_eq_slashes_append :
    ∃ n, path = List.replicate n '/' ++ path.dropWhile (· == '/') := by
  have hslashes : ∀ c ∈ path.takeWhile (· == '/'), c = '/' := by
    intro c hc
    simpa using List.all_eq_true.mp List.all_takeWhile c hc
  refine ⟨(path.takeWhile (· == '/')).length, ?_⟩
  rw [← List.eq_replicate_of_mem hslashes, List.takeWhile_append_dropWhile]

/-- **A path that is accepted is accepted in every directory.**

**Proof sketch.** If the directory is nothing but slashes, they do not count. Otherwise the path
without slashes at its begin stands behind a slash, and so do its ends. -/
lemma acceptsEnd_below {accepts : List Char → Bool} {path : List Char}
    (h : acceptsEnd accepts path) (dir : List Char) :
    acceptsEnd accepts (dir ++ '/' :: path) := by
  obtain ⟨n, hpath⟩ := exists_eq_slashes_append path
  obtain ⟨front, e, hfront, haccepts⟩ := (acceptsEnd_iff accepts path).mp h
  rw [acceptsEnd_iff, List.dropWhile_append]
  split
  · refine ⟨front, e, ?_, haccepts⟩
    rw [List.dropWhile_cons_of_pos rfl]
    exact hfront
  · refine ⟨'/' :: dir.dropWhile (· == '/') ++ List.replicate n '/' ++ front, e, ?_, haccepts⟩
    have hslashes : '/' :: List.replicate n '/' = List.replicate n '/' ++ ['/'] := by
      rw [← List.replicate_succ, List.replicate_succ']
    calc '/' :: (dir.dropWhile (· == '/') ++ '/' :: path)
        = '/' :: dir.dropWhile (· == '/') ++ ('/' :: List.replicate n '/') ++
            path.dropWhile (· == '/') := by
          conv_lhs => rw [hpath]
          simp
      _ = '/' :: dir.dropWhile (· == '/') ++ List.replicate n '/' ++
            '/' :: path.dropWhile (· == '/') := by
          rw [hslashes]
          simp
      _ = _ := by
          rw [hfront]
          simp

end AcceptsEnd

/-! ## Texts in paths -/

/-- A needle occurs in a path if it is a stretch of it. -/
lemma occursIn_iff {needle path : List Char} : occursIn needle path ↔ needle <:+: path := by
  induction path with
  | nil => simp [occursIn]
  | cons c cs ih =>
    rw [occursIn, Bool.or_eq_true, List.isPrefixOf_iff_prefix, ih, List.infix_cons_iff]

/-- Slashes in front of a path, and a directory in front of it, as lists of characters. -/
lemma toList_below (dir path : String) :
    (dir ++ "/" ++ path).toList = dir.toList ++ '/' :: path.toList := by
  simp

/-! ## Patterns -/

/-- **Exclusion is stable**: a path that matches a pattern matches it in every directory, whatever
the path and the name of the directory are, and this holds of any matcher that is tried like a glob
pattern. Slashes at the begin of a path do not matter to a glob pattern. Whether a path is excluded
depends on the set of the patterns only. A glob pattern matches exactly if it accepts the path
without slashes at its begin or what stands behind one of its slashes, a text if the path contains
it. -/
theorem isMatch_stable (dir path : String) :
    (∀ p : PathPattern, p.isMatch path → p.isMatch (dir ++ "/" ++ path)) ∧
      (∀ accepts, acceptsEnd accepts path.toList →
        acceptsEnd accepts (dir ++ "/" ++ path).toList) ∧
      (∀ g n, (glob g).isMatch (String.ofList (List.replicate n '/') ++ path) =
        (glob g).isMatch path) ∧
      (∀ ps qs : List PathPattern, (∀ p, p ∈ ps ↔ p ∈ qs) →
        matchesAny path ps = matchesAny path qs) ∧
      (∀ g, (glob g).isMatch path ↔
        ∃ front e, '/' :: path.toList.dropWhile (· == '/') = front ++ '/' :: e ∧
          Glob.isMatch g (String.ofList e).toUTF8.toList) ∧
      ∀ needle, (substring needle).isMatch path ↔ needle.toList <:+: path.toList := by
  refine ⟨fun p h => ?_, fun accepts h => ?_, fun g n => ?_, fun ps qs hsame => ?_, fun g => ?_,
    fun needle => occursIn_iff⟩
  · cases p with
    | glob g =>
      rw [isMatch_glob, toList_below]
      exact acceptsEnd_below h dir.toList
    | substring needle =>
      have hinside := occursIn_iff.mp h
      refine occursIn_iff.mpr (hinside.trans ?_)
      rw [toList_below]
      exact (List.suffix_cons '/' path.toList).isInfix.trans
        (List.suffix_append dir.toList _).isInfix
  · rw [toList_below]
    exact acceptsEnd_below h dir.toList
  · rw [isMatch_glob, isMatch_glob, String.toList_append, String.toList_ofList]
    exact acceptsEnd_slashes _ _ n
  · rw [matchesAny, matchesAny, Bool.eq_iff_iff, List.any_eq_true, List.any_eq_true]
    simp only [hsame]
  · rw [isMatch_glob]
    exact acceptsEnd_iff _ _

/-- A pattern for everything in a directory `b` excludes a path with doubled slashes, also in
another directory. -/
theorem isMatch_everythingBelow :
    (compile "b/**").isMatch "/b//c" ∧ (compile "b/**").isMatch ("a/" ++ "/" ++ "/b//c") ∧
      matchesAny "/b//c" [compile "b/**", .substring "[", compile "b/**"] =
        matchesAny "/b//c" [.substring "[", compile "b/**"] := by
  have hmatch : (compile "b/**").isMatch "/b//c" := by decide +kernel
  obtain ⟨hbelow, -, -, hset, -⟩ := isMatch_stable "a/" "/b//c"
  refine ⟨hmatch, hbelow _ hmatch, hset _ _ fun p => ?_⟩
  simp only [List.mem_cons, List.not_mem_nil, or_false]
  tauto

end CodeCatalog.PathPattern
