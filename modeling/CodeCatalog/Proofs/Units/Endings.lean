import CodeCatalog.Proofs.Units.Nesting
import CodeCatalog.Proofs.Units.Tokens

/-!
# Where definitions end

A definition should end where the last token of the last statement of its body ends. Its unit ends
where a descent to the last child that is no comment ends, and that descent also takes what
belongs to no statement: a semicolon that closes a line of statements, a backslash that continues
a line without code behind it, and the empty block of a compound statement without one. The two
ends are compared over all trees in which every node with children has one that belongs to the
code.

## Main definitions

* `CodeCatalog.Syntax.Node.isLoose` — the nodes that belong to no statement.
* `CodeCatalog.Syntax.Node.Solid` — a node is not made of loose children only.
* `CodeCatalog.Syntax.Node.IsLastToken` — the last token of a tree, said by the order of its
  tokens.

## Main results

* `CodeCatalog.Syntax.Node.WellFormed.exists_isLastToken` — a solid tree has a last token.
* `CodeCatalog.Syntax.Node.IsLastToken.isLoose_lastToken` — the descent misses the last token only
  by a loose node behind it.
* `CodeCatalog.Extraction.extractUnits_endsAt_iff` — which definitions end with the last token of
  their last statement.
-/

namespace CodeCatalog

open Syntax

namespace Syntax

/-! ## Offsets from places -/

/-- More characters end at another place. -/
lemma Point.behind_append_ne {before piece : List Char} (h : piece ≠ []) :
    Point.behind (before ++ piece) ≠ Point.behind before := by
  intro heq
  have hrow : (before ++ piece).count '\n' = before.count '\n' := congrArg Point.row heq
  rw [List.count_append] at hrow
  -- the piece has no line feed, so all of it counts for the column
  have hfeed : '\n' ∉ piece := List.count_eq_zero.mp (by omega)
  have hcolumn := Point.column_behind_append before hfeed
  rw [heq] at hcolumn
  have hpos : 0 < Text.byteSize piece.reverse := Text.byteSize_pos (by simpa using h)
  omega

/-- A place has one offset. -/
lemma IsAt.byte_inj {source : List Char} {byte byte' : Nat} {point : Point}
    (h : IsAt source byte point) (h' : IsAt source byte' point) : byte = byte' := by
  wlog hle : byte ≤ byte' generalizing byte byte'
  · exact (this h' h (by omega)).symm
  obtain ⟨piece, hpiece⟩ := Text.isPrefix_of_byteSize_le (Text.takeBytes_isPrefix byte source)
    (Text.takeBytes_isPrefix byte' source) (by rw [h.1, h'.1]; exact hle)
  have hplace : Point.behind (Text.takeBytes byte source ++ piece) =
      Point.behind (Text.takeBytes byte source) := by
    rw [hpiece, ← h'.2, h.2]
  obtain rfl : piece = [] := by
    by_contra hne
    exact Point.behind_append_ne hne hplace
  rw [← h.1, ← h'.1, ← hpiece, List.append_nil]

/-- An offset has one place. -/
lemma IsAt.point_inj {source : List Char} {byte : Nat} {point point' : Point}
    (h : IsAt source byte point) (h' : IsAt source byte point') : point = point' :=
  h.2.trans h'.2.symm

namespace Node

/-! ## The last token of a tree -/

/-- Whether a node belongs to no statement: it is a comment, a separator of statements, a mark
that a line continues, or has nothing in it. -/
def isLoose (n : Node) : Bool :=
  n.isComment || n.children.isEmpty &&
    (n.kind == ";" || n.kind == "line_continuation" || n.info.startByte == n.info.endByte)

/-- A node that has children has one that is not loose. -/
def Solid (n : Node) : Prop := n.children ≠ [] → ∃ c ∈ n.children, ¬ c.isLoose

instance (n : Node) : Decidable n.Solid :=
  inferInstanceAs (Decidable (_ → _))

/-- The last child that is not loose: of a body, its last statement. -/
def lastSolidChild? (n : Node) : Option Node :=
  n.children.reverse.find? fun c => !c.isLoose

/-- The last token of a tree: all other tokens in it end before it begins. -/
structure IsLastToken (t n : Node) : Prop where
  within : t.Within n
  childless : t.children = []
  code : ¬ t.isLoose
  last : ∀ d, d.Within n → d.children = [] → ¬ d.isLoose →
    d = t ∨ d.info.endByte ≤ t.info.startByte

section LastToken

variable {source : List Char} {n c t : Node}

/-- A comment is loose. -/
lemma not_isComment_of_not_isLoose (h : ¬ n.isLoose) : ¬ n.isComment := by
  intro hcomment
  exact h (by simp [isLoose, hcomment])

/-- The last child that is not loose is a child. -/
lemma mem_children_of_lastSolidChild? (h : lastSolidChild? n = some c) : c ∈ n.children :=
  List.mem_reverse.mp (List.mem_of_find?_eq_some h)

/-- The last child that is not loose is not loose. -/
lemma not_isLoose_of_lastSolidChild? (h : lastSolidChild? n = some c) : ¬ c.isLoose := by
  simpa using List.find?_some h

/-- A node with a child that is not loose has a last one. -/
lemma exists_lastSolidChild? (hc : c ∈ n.children) (hcode : ¬ c.isLoose) :
    ∃ last, lastSolidChild? n = some last :=
  exists_find?_reverse hc (by simp [hcode])

/-- A node above a node that is not loose is not loose, since loose nodes have no children. -/
lemma WellFormed.not_isLoose_of_within (h : n.WellFormed source) {d : Node} (hd : d.Within n)
    (hcode : ¬ d.isLoose) : ¬ n.isLoose := by
  cases hd with
  | refl => exact hcode
  | child hc hd =>
    have hcomment :=
      h.inOrder.not_isComment_of_within (.child hc hd) (not_isComment_of_not_isLoose hcode)
    have hchildren : n.children ≠ [] := List.ne_nil_of_mem hc
    simp [isLoose, hcomment, hchildren]

/-- A token has something in it. -/
lemma IsLastToken.startByte_lt (ht : t.IsLastToken n) (hn : n.WellFormed source) :
    t.info.startByte < t.info.endByte := by
  have hne : t.info.startByte ≠ t.info.endByte := by
    intro heq
    exact ht.code (by simp [isLoose, ht.childless, heq])
  exact lt_of_le_of_ne (hn.within ht.within).1.stands.order hne

/-- The last token of the last child that is not loose is the last token of the node. -/
lemma IsLastToken.of_lastSolidChild? (ht : t.IsLastToken c) (hn : n.WellFormed source)
    (hlast : lastSolidChild? n = some c) : t.IsLastToken n where
  within := .child (mem_children_of_lastSolidChild? hlast) ht.within
  childless := ht.childless
  code := ht.code
  last d hd hleaf hcode := by
    cases hd with
    | refl =>
      have hmem := mem_children_of_lastSolidChild? hlast
      rw [hleaf] at hmem
      cases hmem
    | @child _ b hb hd =>
      have hbwf := hn.of_mem_children hb
      have hbcode := hbwf.not_isLoose_of_within hd hcode
      rcases eq_or_rel_of_find?_reverse hn.arranged.ordered hlast hb (by simp [hbcode]) with
        rfl | hle
      · exact ht.last d hd hleaf hcode
      · right
        obtain ⟨-, -, hstop⟩ := hbwf.within hd
        obtain ⟨-, hstart, -⟩ :=
          (hn.of_mem_children (mem_children_of_lastSolidChild? hlast)).within ht.within
        omega

/-- **A solid tree has a last token.**

**Proof sketch.** Induction on the tree: the last token of its last child that is not loose. -/
lemma WellFormed.exists_isLastToken (hn : n.WellFormed source) (hsolid : n.Everywhere Solid)
    (hcode : ¬ n.isLoose) : ∃ t : Node, t.IsLastToken n := by
  induction hn with
  | @intro n stands arranged below ih =>
    by_cases hleaf : n.children = []
    · refine ⟨n, .refl, hleaf, hcode, fun d hd _ _ => ?_⟩
      cases hd with
      | refl => exact Or.inl rfl
      | child hc _ =>
        rw [hleaf] at hc
        cases hc
    · obtain ⟨c, hc, hcsolid⟩ := hsolid n .refl hleaf
      obtain ⟨last, hlast⟩ := exists_lastSolidChild? hc hcsolid
      have hmem := mem_children_of_lastSolidChild? hlast
      obtain ⟨t, ht⟩ := ih last hmem (hsolid.of_mem_children hmem)
        (not_isLoose_of_lastSolidChild? hlast)
      exact ⟨t, ht.of_lastSolidChild? (.intro stands arranged below) hlast⟩

/-! ## The descent against the last token -/

/-- In a solid tree comments never stand alone. -/
lemma Everywhere.notOnlyComments (h : n.Everywhere Solid) : n.Everywhere NotOnlyComments := by
  intro d hd hchildren
  obtain ⟨c, hc, hcode⟩ := h d hd hchildren
  exact ⟨c, hc, not_isComment_of_not_isLoose hcode⟩

/-- **In a solid tree the descent misses the last token only by a loose node** behind it. -/
lemma IsLastToken.isLoose_lastToken (ht : t.IsLastToken n) (hn : n.WellFormed source)
    (hsolid : n.Everywhere Solid) (hne : lastToken n ≠ t) :
    (lastToken n).isLoose ∧ t.info.endByte ≤ (lastToken n).info.startByte := by
  have hbehind : t.info.endByte ≤ (lastToken n).info.startByte := by
    have h := hn.inOrder.lastToken_eq_or_le ht.within (not_isComment_of_not_isLoose ht.code)
    rw [lastToken_of_childless ht.childless] at h
    exact h.resolve_left (Ne.symm hne)
  refine ⟨?_, hbehind⟩
  by_contra hcode
  have hbefore := (ht.last _ (lastToken_within n) hsolid.notOnlyComments.children_lastToken
    hcode).resolve_left hne
  have horder := hn.lastToken_inside.1.stands.order
  have hwidth := ht.startByte_lt hn
  omega

end LastToken

end Node

end Syntax

/-! ## The end of a definition -/

/-- Whether a unit ends at a place. -/
def CodeUnit.EndsAt (u : CodeUnit) (point : Point) : Prop :=
  u.endLine = point.row + 1 ∧ u.endCol = some point.column

/-- A unit ends at one place. -/
lemma CodeUnit.EndsAt.unique {u : CodeUnit} {point point' : Point} (h : u.EndsAt point)
    (h' : u.EndsAt point') : point = point' := by
  obtain ⟨hline, hcol⟩ := h
  obtain ⟨hline', hcol'⟩ := h'
  have hrow : point.row = point'.row := by omega
  have hcolumn : point.column = point'.column := Option.some.inj (hcol.symm.trans hcol')
  cases point
  cases point'
  simp_all

namespace Extraction

variable {p : Placed} {u : CodeUnit}

/-- The role of the node of a definition. -/
lemma classify_of_isDefinition (h : p.node.isDefinition) :
    classify p = .function ∨ classify p = .classDef := by
  unfold Node.isDefinition at h
  unfold classify
  by_cases hfunction : p.node.kind == "function_definition"
  · exact Or.inl (if_pos hfunction)
  · have hclass : p.node.kind == "class_definition" := by simpa [hfunction] using h
    exact Or.inr (by rw [if_neg hfunction, if_pos hclass])

/-- The unit of a definition has the span of the definition. -/
lemma Context.span_of_mem_ownUnits {c : Context} (h : p.node.isDefinition)
    (hu : u ∈ c.ownUnits p) :
    Span.mk u.startLine u.endLine u.startCol u.endCol u.sourceText =
      definitionSpan p.node c.lines := by
  rcases classify_of_isDefinition h with hrole | hrole
  · simp only [Context.ownUnits, hrole, Option.mem_toList, Context.functionUnit?,
      Option.map_eq_some_iff] at hu
    obtain ⟨name, -, rfl⟩ := hu
    rfl
  · simp only [Context.ownUnits, hrole, Option.mem_toList, Context.classUnit?,
      Option.map_eq_some_iff] at hu
    obtain ⟨name, -, rfl⟩ := hu
    rfl

/-- The unit of a definition ends where the descent into its body does. -/
lemma Context.endsAt_of_mem_ownUnits {c : Context} (h : p.node.isDefinition)
    (hu : u ∈ c.ownUnits p) {body child : Node} (hbody : p.node.childByField? "body" = some body)
    (hchild : child ∈ body.children) (hcode : ¬ child.isComment) :
    u.EndsAt (lastToken body).info.stop := by
  have hspan := Context.span_of_mem_ownUnits h hu
  obtain ⟨last, hlast⟩ := exists_lastCodeChild? hchild hcode
  simp only [definitionSpan, hbody, Option.bind_some, hlast, Span.mk.injEq, codeEnd_eq,
    ← lastToken_of_lastCodeChild? hlast] at hspan
  exact ⟨hspan.2.1, hspan.2.2.2.1⟩

/-- **Which definitions end with the last token of their last statement**: over every tree that is
well formed over a source, the unit of a definition whose body has a statement ends where the
descent into the body does. That is at the last token of the last statement, or at a loose node
behind it, and the unit ends with the token only if the descent does, or if an empty node directly
behind the token is found instead of it.

**Proof sketch.** The last token of the last statement is the last token of the body
(`IsLastToken.of_lastSolidChild?`), so the descent misses it only by a loose node behind it
(`IsLastToken.isLoose_lastToken`). Places and offsets determine each other, so the unit ends at
the place of the token only if it ends at its offset. -/
theorem extractUnits_endsAt_iff (filePath source : String) (root : Node)
    (hroot : root.WellFormed source.toList) (p : Placed) (u : CodeUnit)
    (hunit : UnitAt filePath source root p u) (hdefinition : p.node.isDefinition) (body : Node)
    (hbody : p.node.childByField? "body" = some body) (hsolid : body.Everywhere Node.Solid)
    (statement : Node) (hstatement : body.lastSolidChild? = some statement) :
    ∃ t : Node, t.IsLastToken statement ∧
      u.EndsAt (lastToken body).info.stop ∧
      (lastToken body ≠ t →
        (lastToken body).isLoose ∧ t.info.endByte ≤ (lastToken body).info.startByte) ∧
      (u.EndsAt t.info.stop ↔ lastToken body = t ∨
        (lastToken body).info.startByte = t.info.endByte ∧
          (lastToken body).info.endByte = t.info.endByte) := by
  have hbodyMem := mem_children_of_childByField? hbody
  have hbodyWf : body.WellFormed source.toList :=
    (hroot.within (within_of_mem_visits hunit.visited)).1.of_mem_children hbodyMem
  have hmem := Node.mem_children_of_lastSolidChild? hstatement
  have hcode := Node.not_isLoose_of_lastSolidChild? hstatement
  obtain ⟨t, ht⟩ := (hbodyWf.of_mem_children hmem).exists_isLastToken
    (hsolid.of_mem_children hmem) hcode
  have htBody := ht.of_lastSolidChild? hbodyWf hstatement
  have hend := Context.endsAt_of_mem_ownUnits hdefinition hunit.given hbody hmem
    (Node.not_isComment_of_not_isLoose hcode)
  have htoken := hbodyWf.lastToken_inside.1.stands
  have htStop := (hbodyWf.within htBody.within).1.stands.stop
  refine ⟨t, ht, hend, htBody.isLoose_lastToken hbodyWf hsolid, fun hsame => ?_, ?_⟩
  · by_cases heq : lastToken body = t
    · exact Or.inl heq
    · right
      obtain ⟨-, hbehind⟩ := htBody.isLoose_lastToken hbodyWf hsolid heq
      have horder := htoken.order
      have hbyte : (lastToken body).info.endByte = t.info.endByte :=
        htoken.stop.byte_inj (hend.unique hsame ▸ htStop)
      omega
  · rintro (heq | ⟨-, hbyte⟩)
    · rwa [heq] at hend
    · have hstop := htoken.stop
      rw [hbyte] at hstop
      rwa [hstop.point_inj htStop] at hend

/-! ### A function on one line with a semicolon -/

/-- A function whose statement is closed by a semicolon. -/
def closedSource : String := "def f(): x = 1;\n"

/-- The statement of the function. -/
def closedStatement : Node :=
  .mk { kind := "expression_statement"
        startByte := 9, endByte := 14, start := ⟨0, 9⟩, stop := ⟨0, 14⟩ }
    [.mk { kind := "assignment"
           startByte := 9, endByte := 14, start := ⟨0, 9⟩, stop := ⟨0, 14⟩ }
      [.mk { kind := "identifier", field := some "left"
             startByte := 9, endByte := 10, start := ⟨0, 9⟩, stop := ⟨0, 10⟩ } [],
        .mk { kind := "=", named := false
              startByte := 11, endByte := 12, start := ⟨0, 11⟩, stop := ⟨0, 12⟩ } [],
        .mk { kind := "integer", field := some "right"
              startByte := 13, endByte := 14, start := ⟨0, 13⟩, stop := ⟨0, 14⟩ } []]]

/-- The semicolon. -/
def closedSeparator : Node :=
  .mk { kind := ";", named := false
        startByte := 14, endByte := 15, start := ⟨0, 14⟩, stop := ⟨0, 15⟩ } []

/-- The body of the function: the statement, and the semicolon. -/
def closedBody : Node :=
  .mk { kind := "block", field := some "body"
        startByte := 9, endByte := 15, start := ⟨0, 9⟩, stop := ⟨0, 15⟩ }
    [closedStatement, closedSeparator]

/-- The function. -/
def closedFunction : Node :=
  .mk { kind := "function_definition"
        startByte := 0, endByte := 15, start := ⟨0, 0⟩, stop := ⟨0, 15⟩ }
    [.mk { kind := "identifier", field := some "name"
           startByte := 4, endByte := 5, start := ⟨0, 4⟩, stop := ⟨0, 5⟩ } [],
      closedBody]

/-- The file with the function. -/
def closedFile : Node :=
  .mk { kind := "module"
        startByte := 0, endByte := 16, start := ⟨0, 0⟩, stop := ⟨1, 0⟩ } [closedFunction]

/-- The descent into the body of the function ends at the semicolon. -/
lemma lastToken_closedBody : lastToken closedBody = closedSeparator :=
  (lastToken_of_lastCodeChild? rfl).trans (Node.lastToken_of_childless rfl)

/-- The function ends with its semicolon, not with the last token of its statement. -/
theorem closedFile_endsAt :
    closedFile.WellFormed closedSource.toList ∧ closedBody.Everywhere Node.Solid ∧
      ∃ u ∈ extractUnits "t.py" closedSource closedFile, u.name = "f" ∧ u.EndsAt ⟨0, 15⟩ ∧
        ∃ t : Node, t.IsLastToken closedStatement ∧ ¬ u.EndsAt t.info.stop := by
  have hwf : closedFile.WellFormed closedSource.toList := by decide
  have hsolid : closedBody.Everywhere Node.Solid := by decide
  let c := Context.ofFile "t.py" closedSource
  let p : Placed := ⟨some closedFile, closedFunction⟩
  have hvisit : p ∈ visits ⟨none, closedFile⟩ :=
    mem_visits_of_mem_namedChildren List.mem_cons_self (self_mem_visits p)
  have hunit : UnitAt "t.py" closedSource closedFile p
      (c.unit .function "f" [] (some []) none (definitionSpan closedFunction c.lines)) :=
    ⟨hvisit, List.mem_singleton_self _⟩
  obtain ⟨t, ht, hend, hloose, hiff⟩ := extractUnits_endsAt_iff "t.py" closedSource closedFile hwf
    p _ hunit rfl closedBody rfl hsolid closedStatement rfl
  rw [lastToken_closedBody] at hend hiff
  refine ⟨hwf, hsolid, _, mem_extractUnits_iff.mpr ⟨p, hunit⟩, rfl, hend, t, ht, fun hsame => ?_⟩
  rcases hiff.mp hsame with rfl | ⟨hstart, hstop⟩
  · exact ht.code rfl
  · cases hstart.trans hstop.symm

end Extraction

end CodeCatalog
