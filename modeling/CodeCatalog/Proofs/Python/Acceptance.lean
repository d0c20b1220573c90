import CodeCatalog.Proofs.Syntax.Comments
import CodeCatalog.Proofs.Units.Order
import CodeCatalog.Python.Parser

/-!
# Accepted syntax trees

A tree without errors is accepted unless it has a statement that only the second version of the
language had. The search for one goes down named nodes only, with a stack, and stops at the first
that it meets. It meets nodes in the order in which they begin, so the statement that is reported is
the one that begins first in the source. What stands inside a token, like a comment or a line
continuation between the two words of an operator, is not searched; it has to be free of statements.

## Main definitions

* `CodeCatalog.Python.FreeInTokens` — tokens without statements of the second version.
* `CodeCatalog.Python.IsFirstLegacy` — the statement of the second version that begins first.
* `CodeCatalog.Python.SyntaxError.IsAbout` — an error at a statement of the second version.

## Main results

* `CodeCatalog.Python.searchLegacy_eq` — the search with the stack goes through the nodes in the
  order of the walk.
* `CodeCatalog.Python.isFirstLegacy_of_firstLegacyStatement?` — it finds the statement that begins
  first.
* `CodeCatalog.Python.checkTree_of_wellFormed` — which trees are accepted, and where the others are
  rejected.
-/

namespace CodeCatalog.Python

open Syntax Extraction

/-! ## The search for statements -/

/-- The nodes that are reached through named nodes, in the order of the walk. -/
def reached (n : Node) : List Node := (visits ⟨none, n⟩).map (·.node)

/-- The nodes that are reached do not depend on the node above. -/
lemma map_node_visits (parent : Option Node) (n : Node) :
    (visits ⟨parent, n⟩).map (·.node) = reached n := by
  rw [reached, visits_eq, visits_eq ⟨none, n⟩, List.map_cons, List.map_cons]
  rfl

/-- A node is reached first, then what its named children reach. -/
lemma reached_eq (n : Node) : reached n = n :: n.namedChildren.flatMap reached := by
  rw [reached, visits_eq, List.map_cons, List.map_flatMap, Placed.namedChildren, List.flatMap_map]
  simp only [map_node_visits]

/-- The search over a stack goes through the nodes that are reached from it, in order. -/
lemma searchLegacy_eq (ns : List Node) :
    searchLegacy ns = (ns.flatMap reached).find? isLegacyStatement := by
  fun_induction searchLegacy ns with
  | case1 => rfl
  | case2 n rest hlegacy =>
    rw [List.flatMap_cons, reached_eq, List.cons_append, List.find?_cons_of_pos hlegacy]
  | case3 n rest hlegacy ih =>
    rw [ih, List.flatMap_append, List.flatMap_cons, reached_eq n, List.cons_append,
      List.find?_cons_of_neg hlegacy]

/-- The statement that is found is the first that is reached. -/
lemma firstLegacyStatement?_eq (root : Node) :
    firstLegacyStatement? root = (reached root).find? isLegacyStatement := by
  rw [firstLegacyStatement?, searchLegacy_eq, List.flatMap_singleton]

/-- What is reached stands inside the tree. -/
lemma within_of_mem_reached {d n : Node} (h : d ∈ reached n) : d.Within n := by
  obtain ⟨p, hp, rfl⟩ := List.mem_map.mp h
  exact within_of_mem_visits hp

/-! ## Statements in a tree -/

/-- A node that holds no statement of the second version if it is a token: it is none, and there is
none inside it. -/
def FreeInTokens (n : Node) : Prop :=
  n.info.named = false → n.Everywhere fun d => ¬ isLegacyStatement d

instance (n : Node) : Decidable (FreeInTokens n) :=
  inferInstanceAs (Decidable (n.info.named = false → n.Everywhere fun d => ¬ isLegacyStatement d))

section Statements

variable {source : List Char} {root n d : Node}

/-- Every statement of the second version is reached, at any depth. -/
lemma mem_reached_of_within (h : n.Everywhere FreeInTokens) (hd : d.Within n)
    (hlegacy : isLegacyStatement d) : d ∈ reached n := by
  induction hd with
  | refl =>
    rw [reached_eq]
    exact List.mem_cons_self
  | @child n c hc hd ih =>
    have hinside := h.of_mem_children hc
    have hnamed : c.info.named := by
      by_contra htoken
      exact hinside c .refl (by simpa using htoken) d hd hlegacy
    rw [reached_eq]
    exact List.mem_cons_of_mem _
      (List.mem_flatMap.mpr ⟨c, List.mem_filter.mpr ⟨hc, hnamed⟩, ih hinside⟩)

/-- The statement of the second version that begins first in a tree. -/
structure IsFirstLegacy (root n : Node) : Prop where
  within : n.Within root
  legacy : isLegacyStatement n
  first : ∀ d, d.Within root → isLegacyStatement d → n.info.startByte ≤ d.info.startByte

/-- There is a first statement exactly if there is any. -/
lemma firstLegacyStatement?_eq_none_iff (h : root.Everywhere FreeInTokens) :
    firstLegacyStatement? root = none ↔ ∀ d, d.Within root → ¬ isLegacyStatement d := by
  rw [firstLegacyStatement?_eq, List.find?_eq_none]
  constructor
  · intro hnone d hd hlegacy
    exact hnone d (mem_reached_of_within h hd hlegacy) hlegacy
  · intro hnone d hd
    exact hnone d (within_of_mem_reached hd)

/-- **The statement that is found begins first** among all such statements of the tree.

**Proof sketch.** Every other one is reached too (`mem_reached_of_within`), behind the one that is
found, since the search stops at the first. What is reached later begins later
(`pairwise_startByte_visits`). -/
lemma isFirstLegacy_of_firstLegacyStatement? (hroot : root.WellFormed source)
    (h : root.Everywhere FreeInTokens) (hn : firstLegacyStatement? root = some n) :
    IsFirstLegacy root n := by
  rw [firstLegacyStatement?_eq] at hn
  obtain ⟨hlegacy, before, behind, hsplit, hbefore⟩ := List.find?_eq_some_iff_append.mp hn
  refine ⟨within_of_mem_reached (List.mem_of_find?_eq_some hn), hlegacy, fun d hd hother => ?_⟩
  have hordered : (reached root).Pairwise fun a b => a.info.startByte ≤ b.info.startByte :=
    List.pairwise_map.mpr (pairwise_startByte_visits hroot)
  have hmem := mem_reached_of_within h hd hother
  rw [hsplit] at hordered hmem
  rcases List.mem_append.mp hmem with hleft | hright
  · simpa [hother] using hbefore d hleft
  · rcases List.mem_cons.mp hright with rfl | hright
    · exact Nat.le_refl _
    · exact (List.pairwise_cons.mp (List.pairwise_append.mp hordered).2.1).1 d hright

end Statements

/-! ## Acceptance -/

/-- An error at a statement of the second version: it is on the line and in the column where the
statement begins, and its reason names the keyword of the statement. -/
structure SyntaxError.IsAbout (e : SyntaxError) (file : String) (n : Node) : Prop where
  file : e.file = file
  line : e.line = n.info.start.row + 1
  column : e.column = n.info.start.column
  reason : ∃ keyword, n.kind = keyword ++ "_statement" ∧
    e.reason = s!"invalid syntax: Python 2 `{keyword}` statement"

/-- The kind of a statement is made from its keyword. -/
lemma kind_eq_legacyKeyword {n : Node} (h : isLegacyStatement n) :
    n.kind = legacyKeyword n ++ "_statement" := by
  unfold isLegacyStatement at h
  unfold legacyKeyword
  by_cases hprint : n.kind == "print_statement"
  · rw [if_pos hprint]
    simpa using hprint
  · rw [if_neg hprint]
    simpa [hprint] using h

section Check

variable {file : String} {source : List Char} {root n : Node}

/-- A tree with a statement of the second version is rejected at the one that is found. -/
lemma checkTree_eq_error (hfree : root.info.hasError = false)
    (hn : firstLegacyStatement? root = some n) :
    checkTree file source root =
      .error (errorAt file n s!"invalid syntax: Python 2 `{legacyKeyword n}` statement") := by
  rw [checkTree, hfree, if_neg Bool.false_ne_true, hn]

/-- A tree in which no statement of the second version is found is accepted. -/
lemma checkTree_eq_ok (hfree : root.info.hasError = false)
    (hnone : firstLegacyStatement? root = none) : checkTree file source root = .ok root := by
  rw [checkTree, hfree, if_neg Bool.false_ne_true, hnone]

end Check

/-- **Acceptance of trees without errors**: over every source, a well-formed tree that is free of
errors is accepted if and only if no node in it, at any depth, is a statement of the second version.
Otherwise it is rejected at the one that begins first in the source, by its line, its column and its
keyword. Parsing a source is making its tree and checking it so, whatever makes the tree.

**Proof sketch.** There is a first statement exactly if there is any
(`firstLegacyStatement?_eq_none_iff`), and the one that is found begins first
(`isFirstLegacy_of_firstLegacyStatement?`). -/
theorem checkTree_of_wellFormed (file source : String) (root : Node)
    (hroot : root.WellFormed source.toList) (hfree : root.info.hasError = false)
    (htokens : root.Everywhere FreeInTokens) :
    (checkTree file source.toList root = .ok root ↔
        ∀ d, d.Within root → ¬ isLegacyStatement d) ∧
      ((∃ d, d.Within root ∧ isLegacyStatement d) →
        ∃ e n, checkTree file source.toList root = .error e ∧ IsFirstLegacy root n ∧
          e.IsAbout file n) ∧
      ∀ make : TreeMaker, make source = some root →
        parse make file source = checkTree file source.toList root := by
  refine ⟨?_, ?_, fun _ htree => congrArg (checkParsed file source) htree⟩
  · rw [← firstLegacyStatement?_eq_none_iff htokens]
    cases hfound : firstLegacyStatement? root with
    | none => simp [checkTree_eq_ok hfree hfound]
    | some n => simp [checkTree_eq_error hfree hfound]
  · rintro ⟨d, hd, hlegacy⟩
    cases hfound : firstLegacyStatement? root with
    | none => exact absurd hlegacy ((firstLegacyStatement?_eq_none_iff htokens).mp hfound d hd)
    | some n =>
      have hfirst := isFirstLegacy_of_firstLegacyStatement? hroot htokens hfound
      exact ⟨_, n, checkTree_eq_error hfree hfound, hfirst, rfl, rfl, rfl, legacyKeyword n,
        kind_eq_legacyKeyword hfirst.legacy, rfl⟩

/-! ### A statement inside another one -/

/-- A loop with a `print` statement in it, and an `exec` statement behind it. Its condition has a
line continuation inside an operator. -/
def legacySource : String := "while x not \\\n in y:\n  print y\nexec z\n"

/-- The condition of the loop. -/
def legacyCondition : Node :=
  .mk { kind := "comparison_operator", field := some "condition"
        startByte := 6, endByte := 19, start := ⟨0, 6⟩, stop := ⟨1, 5⟩ }
    [.mk { kind := "identifier"
           startByte := 6, endByte := 7, start := ⟨0, 6⟩, stop := ⟨0, 7⟩ } [],
      .mk { kind := "not in", named := false, field := some "operators"
            startByte := 8, endByte := 17, start := ⟨0, 8⟩, stop := ⟨1, 3⟩ }
        [.mk { kind := "not", named := false
               startByte := 8, endByte := 11, start := ⟨0, 8⟩, stop := ⟨0, 11⟩ } [],
          .mk { kind := "line_continuation"
                startByte := 12, endByte := 14, start := ⟨0, 12⟩, stop := ⟨1, 0⟩ } [],
          .mk { kind := "in", named := false
                startByte := 15, endByte := 17, start := ⟨1, 1⟩, stop := ⟨1, 3⟩ } []],
      .mk { kind := "identifier"
            startByte := 18, endByte := 19, start := ⟨1, 4⟩, stop := ⟨1, 5⟩ } []]

/-- The body of the loop. -/
def legacyBody : Node :=
  .mk { kind := "block", field := some "body"
        startByte := 23, endByte := 30, start := ⟨2, 2⟩, stop := ⟨2, 9⟩ }
    [.mk { kind := "print_statement"
           startByte := 23, endByte := 30, start := ⟨2, 2⟩, stop := ⟨2, 9⟩ }
      [.mk { kind := "print", named := false
             startByte := 23, endByte := 28, start := ⟨2, 2⟩, stop := ⟨2, 7⟩ } [],
        .mk { kind := "identifier", field := some "argument"
              startByte := 29, endByte := 30, start := ⟨2, 8⟩, stop := ⟨2, 9⟩ } []]]

/-- The loop. -/
def legacyLoop : Node :=
  .mk { kind := "while_statement"
        startByte := 0, endByte := 30, start := ⟨0, 0⟩, stop := ⟨2, 9⟩ }
    [.mk { kind := "while", named := false
           startByte := 0, endByte := 5, start := ⟨0, 0⟩, stop := ⟨0, 5⟩ } [],
      legacyCondition,
      .mk { kind := ":", named := false
            startByte := 19, endByte := 20, start := ⟨1, 5⟩, stop := ⟨1, 6⟩ } [],
      legacyBody]

/-- The file with the loop. -/
def legacyFile : Node :=
  .mk { kind := "module", startByte := 0, endByte := 38, start := ⟨0, 0⟩, stop := ⟨4, 0⟩ }
    [legacyLoop,
      .mk { kind := "exec_statement"
            startByte := 31, endByte := 37, start := ⟨3, 0⟩, stop := ⟨3, 6⟩ }
        [.mk { kind := "exec", named := false
               startByte := 31, endByte := 35, start := ⟨3, 0⟩, stop := ⟨3, 4⟩ } [],
          .mk { kind := "identifier", field := some "code"
                startByte := 36, endByte := 37, start := ⟨3, 5⟩, stop := ⟨3, 6⟩ } []]]

/-- The file is rejected at the `print` statement, or before it. -/
theorem legacyFile_rejected :
    legacyFile.WellFormed legacySource.toList ∧ legacyFile.Everywhere FreeInTokens ∧
      ∃ e n, checkTree "a.py" legacySource.toList legacyFile = .error e ∧
        IsFirstLegacy legacyFile n ∧ e.IsAbout "a.py" n ∧ e.line ≤ 3 := by
  have hwf : legacyFile.WellFormed legacySource.toList := by decide
  have hfree : legacyFile.Everywhere FreeInTokens := by decide
  obtain ⟨-, hrejected, -⟩ := checkTree_of_wellFormed "a.py" legacySource legacyFile hwf rfl hfree
  have hinside : legacyBody.Within legacyFile :=
    .child (.head _) (.child (.tail _ (.tail _ (.tail _ (.head _)))) .refl)
  have hstatement (c : Node) (hc : c ∈ legacyBody.children) : c.Within legacyFile :=
    Node.Within.trans (.child hc .refl) hinside
  obtain ⟨e, n, herror, hfirst, habout⟩ :=
    hrejected ⟨_, hstatement _ List.mem_cons_self, by decide⟩
  refine ⟨hwf, hfree, e, n, herror, hfirst, habout, ?_⟩
  have hle := hfirst.first _ (hstatement _ List.mem_cons_self) (by decide)
  have hnwf := (hwf.within hfirst.within).1
  have hpwf := (hwf.within (hstatement _ List.mem_cons_self)).1
  rw [habout.line]
  exact Nat.succ_le_succ (hnwf.stands.start.row_le hpwf.stands.start hle)

end CodeCatalog.Python
