import CodeCatalog.Proofs.Units.WellFormed

/-!
# The last token of the code below a node

The end of the code below a node is found by descent, at every level to the last child that is no
comment. In a tree whose nodes stand in order, by their places, and in which comments never stand
alone, the descent reaches a token, and no other token of the code ends behind it.

## Main definitions

* `CodeCatalog.Syntax.Node.NotOnlyComments` — a node does not have comments alone for children.
* `CodeCatalog.Syntax.Node.IsTokenOf` — the tokens of the code below a node.

## Main results

* `CodeCatalog.Syntax.Node.WellFormed.inOrder_places` — well-formed trees are in order by places.
* `CodeCatalog.Syntax.Node.Everywhere.isTokenOf_lastToken` — the descent reaches a token.
* `CodeCatalog.Syntax.Node.codeEnd_of_inOrder` — the end of the code below a node.
-/

namespace CodeCatalog

open Syntax

namespace Syntax

/-! ## The order of places -/

/-- Places are ordered by rows, and by columns in a row. -/
instance : LE Point where
  le p q := p.row < q.row ∨ p.row = q.row ∧ p.column ≤ q.column

/-- A place is not behind another if its row is smaller, or its column is not larger in the same
row. -/
lemma Point.le_def {p q : Point} : p ≤ q ↔ p.row < q.row ∨ p.row = q.row ∧ p.column ≤ q.column :=
  Iff.rfl

instance (p q : Point) : Decidable (p ≤ q) := decidable_of_iff _ Point.le_def.symm

instance : Preorder Point where
  le_refl p := Or.inr ⟨rfl, le_rfl⟩
  le_trans p q r hpq hqr := by
    rw [Point.le_def] at *
    omega

/-- More characters end at a later place. -/
lemma Point.behind_le_append (before piece : List Char) :
    Point.behind before ≤ Point.behind (before ++ piece) := by
  have hrow : (Point.behind (before ++ piece)).row =
      (Point.behind before).row + piece.count '\n' := List.count_append
  rw [Point.le_def]
  by_cases hfeed : '\n' ∈ piece
  · have hpos := List.count_pos_iff.mpr hfeed
    omega
  · have hcolumn := Point.column_behind_append before hfeed
    omega

/-- A later offset is not at an earlier place. -/
lemma IsAt.le {source : List Char} {start stop : Nat} {startPoint stopPoint : Point}
    (hstart : IsAt source start startPoint) (hstop : IsAt source stop stopPoint)
    (hle : start ≤ stop) : startPoint ≤ stopPoint := by
  obtain ⟨before, piece, rest, -, -, rfl, rfl⟩ := hstart.exists_split hstop hle
  exact Point.behind_le_append before piece

namespace Node

variable {source : List Char} {n d t : Node}

/-- A well-formed tree is in order by its places. -/
lemma WellFormed.inOrder_places (h : n.WellFormed source) :
    n.Everywhere (InOrder (·.info.start) (·.info.stop)) := by
  intro d hd
  have hwf := h.of_within hd
  have hbelow : ∀ c ∈ d.children, c.info.Stands source :=
    fun c hc => (hwf.of_mem_children hc).stands
  refine ⟨hwf.stands.start.le hwf.stands.stop hwf.stands.order, ?_, fun c hc => ?_,
    hwf.arranged.comment⟩
  · refine hwf.arranged.ordered.imp_of_mem fun ha hb hle => ?_
    exact (hbelow _ ha).stop.le (hbelow _ hb).start hle
  · obtain ⟨hstart, hstop⟩ := hwf.arranged.inside c hc
    exact ⟨hwf.stands.start.le (hbelow c hc).start hstart,
      (hbelow c hc).stop.le hwf.stands.stop hstop⟩

/-! ## Tokens -/

/-- A node that has children has one that is no comment. -/
def NotOnlyComments (n : Node) : Prop := n.children ≠ [] → ∃ c ∈ n.children, ¬ c.isComment

instance (n : Node) : Decidable n.NotOnlyComments :=
  inferInstanceAs (Decidable (_ → _))

/-- A token of the code below a node: a node without children that is no comment. -/
structure IsTokenOf (t n : Node) : Prop where
  within : t.Within n
  childless : t.children = []
  code : ¬ t.isComment

/-- The descent from a node without children stays there. -/
lemma lastToken_of_childless (h : n.children = []) : lastToken n = n :=
  lastToken_of_lastCodeChild?_eq_none (by simp [lastCodeChild?, h])

/-- The last token has no children but comments. -/
lemma lastCodeChild?_lastToken (n : Node) : lastCodeChild? (lastToken n) = none := by
  fun_induction lastToken n with
  | case1 n c hc ih => exact ih
  | case2 n hnone => exact hnone

/-- The last token of a node that is no comment is no comment. -/
lemma not_isComment_lastToken (h : ¬ n.isComment) : ¬ (lastToken n).isComment := by
  fun_induction lastToken n with
  | case1 n c hc ih => exact ih (by simpa using List.find?_some hc)
  | case2 n hnone => exact h

/-- The descent ends at a node without children, if comments never stand alone. -/
lemma Everywhere.children_lastToken (h : n.Everywhere NotOnlyComments) :
    (lastToken n).children = [] := by
  by_contra hchildren
  obtain ⟨c, hc, hcode⟩ := h _ (lastToken_within n) hchildren
  obtain ⟨last, hlast⟩ := exists_lastCodeChild? hc hcode
  rw [lastCodeChild?_lastToken] at hlast
  cases hlast

/-- **The descent reaches a token.** -/
lemma Everywhere.isTokenOf_lastToken (h : n.Everywhere NotOnlyComments) (hcode : ¬ n.isComment) :
    (lastToken n).IsTokenOf n :=
  ⟨lastToken_within n, h.children_lastToken, not_isComment_lastToken hcode⟩

/-- **The end of the code below a node.** In a tree whose nodes stand in order, by their places,
and in which comments never stand alone, the code below a node that is no comment ends where one of
its tokens does, not before any of them, and not before the code below any node inside it.

**Proof sketch.** The descent from the node reaches a token (`isTokenOf_lastToken`), and it ends
behind the descent from every node inside (`Everywhere.stop_lastToken_le`). From a token the
descent does not go on. -/
theorem codeEnd_of_inOrder {root : Node}
    (horder : root.Everywhere (InOrder (·.info.start) (·.info.stop)))
    (hcomments : root.Everywhere NotOnlyComments) {n : Node} (hn : n.Within root)
    (hcode : ¬ n.isComment) :
    (∃ t : Node, t.IsTokenOf n ∧ codeEnd n = t.info.stop) ∧
      (∀ t : Node, t.IsTokenOf n → t.info.stop ≤ codeEnd n) ∧
      ∀ d : Node, d.Within n → ¬ d.isComment → codeEnd d ≤ codeEnd n := by
  have hinside : ∀ d : Node, d.Within n → ¬ d.isComment → codeEnd d ≤ codeEnd n := by
    intro d hd hdcode
    rw [codeEnd_eq, codeEnd_eq]
    exact (horder.of_within hn).stop_lastToken_le hd hdcode
  refine ⟨⟨lastToken n, (hcomments.of_within hn).isTokenOf_lastToken hcode, codeEnd_eq n⟩, ?_,
    hinside⟩
  intro t ht
  have hend := hinside t ht.within ht.code
  rwa [codeEnd_eq t, lastToken_of_childless ht.childless] at hend

/-! ### A class with comments at the end of its blocks -/

/-- A class whose body is a conditional and a comment; the block of the conditional ends with a
comment, too. -/
def trailingSource : String := "class A:\n    if x:\n        pass\n        # done\n    # more\n"

/-- The only token of the statement in the block of the conditional. -/
def trailingToken : Node :=
  .mk { kind := "pass", named := false
        startByte := 27, endByte := 31, start := ⟨2, 8⟩, stop := ⟨2, 12⟩ } []

/-- The statement. -/
def trailingStatement : Node :=
  .mk { kind := "pass_statement"
        startByte := 27, endByte := 31, start := ⟨2, 8⟩, stop := ⟨2, 12⟩ } [trailingToken]

/-- The block of the conditional: the statement, and a comment. -/
def trailingBlock : Node :=
  .mk { kind := "block", field := some "consequence"
        startByte := 27, endByte := 46, start := ⟨2, 8⟩, stop := ⟨3, 14⟩ }
    [trailingStatement,
      .mk { kind := "comment"
            startByte := 40, endByte := 46, start := ⟨3, 8⟩, stop := ⟨3, 14⟩ } []]

/-- The conditional. -/
def trailingConditional : Node :=
  .mk { kind := "if_statement"
        startByte := 13, endByte := 46, start := ⟨1, 4⟩, stop := ⟨3, 14⟩ }
    [.mk { kind := "identifier", field := some "condition"
           startByte := 16, endByte := 17, start := ⟨1, 7⟩, stop := ⟨1, 8⟩ } [],
      trailingBlock]

/-- The body of the class: the conditional, and a comment. -/
def trailingBody : Node :=
  .mk { kind := "block", field := some "body"
        startByte := 13, endByte := 57, start := ⟨1, 4⟩, stop := ⟨4, 10⟩ }
    [trailingConditional,
      .mk { kind := "comment"
            startByte := 51, endByte := 57, start := ⟨4, 4⟩, stop := ⟨4, 10⟩ } []]

/-- The class. -/
def trailingClass : Node :=
  .mk { kind := "class_definition"
        startByte := 0, endByte := 57, start := ⟨0, 0⟩, stop := ⟨4, 10⟩ }
    [.mk { kind := "identifier", field := some "name"
           startByte := 6, endByte := 7, start := ⟨0, 6⟩, stop := ⟨0, 7⟩ } [],
      trailingBody]

/-- The file with the class. -/
def trailingFile : Node :=
  .mk { kind := "module"
        startByte := 0, endByte := 58, start := ⟨0, 0⟩, stop := ⟨5, 0⟩ } [trailingClass]

/-- The descent from the class passes both comments. -/
lemma lastToken_trailingClass : lastToken trailingClass = trailingToken := by
  have hclass : lastCodeChild? trailingClass = some trailingBody := rfl
  have hbody : lastCodeChild? trailingBody = some trailingConditional := rfl
  have hconditional : lastCodeChild? trailingConditional = some trailingBlock := rfl
  have hblock : lastCodeChild? trailingBlock = some trailingStatement := rfl
  have hstatement : lastCodeChild? trailingStatement = some trailingToken := rfl
  rw [lastToken_of_lastCodeChild? hclass, lastToken_of_lastCodeChild? hbody,
    lastToken_of_lastCodeChild? hconditional, lastToken_of_lastCodeChild? hblock,
    lastToken_of_lastCodeChild? hstatement, lastToken_of_childless rfl]

/-- No token of the class, and no code of the conditional, is behind the end of the statement. -/
theorem trailingClass_codeEnd :
    trailingFile.WellFormed trailingSource.toList ∧ trailingFile.Everywhere NotOnlyComments ∧
      codeEnd trailingClass = ⟨2, 12⟩ ∧
      (∃ t : Node, t.IsTokenOf trailingClass ∧ t.info.stop = ⟨2, 12⟩) ∧
      (∀ t : Node, t.IsTokenOf trailingClass → t.info.stop ≤ ⟨2, 12⟩) ∧
      codeEnd trailingConditional ≤ ⟨2, 12⟩ := by
  have hwf : trailingFile.WellFormed trailingSource.toList := by decide
  have hcomments : trailingFile.Everywhere NotOnlyComments := by decide
  obtain ⟨⟨t, ht, hend⟩, hlast, hinside⟩ := codeEnd_of_inOrder hwf.inOrder_places hcomments
    (n := trailingClass) (.child List.mem_cons_self .refl) (by decide)
  have hstop : codeEnd trailingClass = ⟨2, 12⟩ := by
    rw [codeEnd_eq, lastToken_trailingClass]
    rfl
  rw [hstop] at hend hlast hinside
  have hconditional : trailingConditional.Within trailingClass :=
    .child (List.mem_cons_of_mem _ List.mem_cons_self) (.child List.mem_cons_self .refl)
  exact ⟨hwf, hcomments, hstop, ⟨t, ht, hend.symm⟩, hlast, hinside _ hconditional (by decide)⟩

end Node

end Syntax

end CodeCatalog
