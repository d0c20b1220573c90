import CodeCatalog.Proofs.Units.Spans

/-!
# Nested units

A unit inside the body of a definition has its lines among those of the definition. Where a unit
ends is found by a descent of its own, past the comments at the end of every block, so the lines
nest because the last token of a body lies behind the last token of everything in the body.

## Main definitions

* `CodeCatalog.Syntax.Node.Below` — the nodes below a node.
* `CodeCatalog.Extraction.UnitAt` — a unit of a file and the node that gives it.

## Main results

* `CodeCatalog.Extraction.lastStatement?_of_isDefinition` — a definition ends with its body.
* `CodeCatalog.Extraction.Context.Locates.endLine_le` — the last line of a unit that is inside a
  node is not behind the last token of the node.
* `CodeCatalog.Extraction.extractUnits_lines_nest` — the lines of nested units nest.
-/

namespace CodeCatalog

open Syntax

/-- The nodes below a node. -/
def Syntax.Node.Below (d n : Node) : Prop := ∃ c ∈ n.children, d.Within c

/-- What stands below a node stands within it. -/
lemma Syntax.Node.Below.within {d n : Node} (h : d.Below n) : d.Within n := by
  obtain ⟨c, hc, hd⟩ := h
  exact .child hc hd

namespace Extraction

/-! ## Units and their nodes -/

/-- A unit of a file, and the node that gives it. -/
structure UnitAt (filePath source : String) (root : Node) (p : Placed) (u : CodeUnit) : Prop where
  visited : p ∈ visits ⟨none, root⟩
  given : u ∈ (Context.ofFile filePath source).ownUnits p

/-- The units of a file are those that some node gives. -/
lemma mem_extractUnits_iff {filePath source : String} {root : Node} {u : CodeUnit} :
    u ∈ extractUnits filePath source root ↔ ∃ p, UnitAt filePath source root p u := by
  rw [extractUnits, Context.walk_eq_flatMap_visits, List.mem_flatMap]
  constructor
  · rintro ⟨p, hp, hu⟩
    exact ⟨p, hp, hu⟩
  · rintro ⟨p, h⟩
    exact ⟨p, h.visited, h.given⟩

/-- A node with a role is no comment. -/
lemma not_isComment_of_classify {p : Placed} (h : classify p ≠ .other) : ¬ p.node.isComment := by
  intro hcomment
  have hkind : p.node.kind = "comment" := by simpa [Node.isComment] using hcomment
  exact h (by simp [classify, hkind])

/-- A node that gives a unit is no comment. -/
lemma not_isComment_of_mem_ownUnits {c : Context} {p : Placed} {u : CodeUnit}
    (hu : u ∈ c.ownUnits p) : ¬ p.node.isComment := by
  refine not_isComment_of_classify fun hother => ?_
  simp [Context.ownUnits, hother] at hu

/-- A unit does not end with a comment. -/
lemma not_isComment_of_lastStatement? {p : Placed} {statement : Node}
    (h : lastStatement? p = some statement) : ¬ statement.isComment := by
  have hlast : ∀ {body : Option Node}, body.bind lastCodeChild? = some statement →
      ¬ statement.isComment := by
    intro body hbody
    obtain ⟨n, -, hn⟩ := Option.bind_eq_some_iff.mp hbody
    simpa using List.find?_some hn
  unfold lastStatement? at h
  cases hrole : classify p with
  | function => exact hlast (by simpa [hrole] using h)
  | classDef => exact hlast (by simpa [hrole] using h)
  | assignment =>
    obtain rfl : p.node = statement := by simpa [hrole] using h
    exact not_isComment_of_classify (by simp [hrole])
  | other => simp [hrole] at h

/-- A definition ends with the last statement of its body. -/
lemma lastStatement?_of_isDefinition {p : Placed} (h : p.node.isDefinition) :
    lastStatement? p = (p.node.childByField? "body").bind lastCodeChild? := by
  unfold Node.isDefinition at h
  unfold lastStatement? classify
  by_cases hfunction : p.node.kind == "function_definition"
  · simp only [hfunction, if_true]
  · have hclass : p.node.kind == "class_definition" := by simpa [hfunction] using h
    simp only [hfunction, hclass, Bool.false_eq_true, if_false, if_true]

/-! ## Lines inside lines -/

section Lines

variable {source : List Char} {c : Context} {p : Placed} {name : Node} {u : CodeUnit}

/-- A unit does not end before it begins. -/
lemma Context.Locates.startLine_le (hloc : c.Locates p name u) (hname : NamedBy p name)
    (hp : p.node.WellFormed source) : u.startLine ≤ u.endLine := by
  rw [hloc.endLine]
  cases hlast : lastStatement? p with
  | none => exact Nat.le_refl _
  | some statement =>
    obtain ⟨hstatement, -, -⟩ := hname.within hp hlast
    obtain ⟨hwf, hstart, -⟩ := hp.within ((lastToken_within statement).trans hstatement)
    have hrows := hp.stands.start.row_le hwf.stands.stop (hstart.trans hwf.stands.order)
    simp only [hloc.startLine, codeEnd_eq]
    omega

/-- **The last line of a unit that is inside a node** is not behind the last token of the node.

**Proof sketch.** A unit whose end is not known has one line, where its node begins. Otherwise it
ends with the last token of a node that is no comment. In either case `stop_lastToken_le`
compares this with the last token of the node around it. -/
lemma Context.Locates.endLine_le (hloc : c.Locates p name u) (hname : NamedBy p name)
    (hcode : ¬ p.node.isComment) {n : Node} (hn : n.WellFormed source) (hp : p.node.Within n) :
    u.endLine ≤ (lastToken n).info.stop.row + 1 := by
  have hstop := hn.lastToken_inside.1.stands.stop
  have hwf := (hn.within hp).1
  rw [hloc.endLine]
  cases hlast : lastStatement? p with
  | none =>
    have hrows := hwf.stands.start.row_le hstop (hn.startByte_le_endByte_lastToken hp hcode)
    simp only [hloc.startLine]
    omega
  | some statement =>
    have hstatement := (hname.within hwf hlast).1.trans hp
    have hbehind := hn.inOrder.stop_lastToken_le hstatement (not_isComment_of_lastStatement? hlast)
    have hrows := (hn.within hstatement).1.lastToken_inside.1.stands.stop.row_le hstop hbehind
    simp only [codeEnd_eq]
    omega

end Lines

/-- **The lines of nested units nest**: over every tree that is well formed over a source, a unit
whose node is below the body of a definition, at any depth, has its lines in order and among those
of the unit of the definition.

**Proof sketch.** The body has a child on the way to the inner node that is no comment, so the
outer unit ends with the last token of the body. The inner unit begins behind the begin of the
definition, and ends before the last token of the body (`Context.Locates.endLine_le`). -/
theorem extractUnits_lines_nest (filePath source : String) (root : Node)
    (hroot : root.WellFormed source.toList) (p q : Placed) (outer inner : CodeUnit)
    (houter : UnitAt filePath source root p outer) (hinner : UnitAt filePath source root q inner)
    (hdefinition : p.node.isDefinition) (body : Node)
    (hbody : p.node.childByField? "body" = some body) (hbelow : q.node.Below body) :
    outer.startLine ≤ inner.startLine ∧ inner.startLine ≤ inner.endLine ∧
      inner.endLine ≤ outer.endLine := by
  have hp : p.node.WellFormed source.toList :=
    (hroot.within (within_of_mem_visits houter.visited)).1
  have hbodyMem := mem_children_of_childByField? hbody
  have hbodyWf := hp.of_mem_children hbodyMem
  have hinside : q.node.Within p.node := .child hbodyMem hbelow.within
  obtain ⟨hq, hbehind, -⟩ := hp.within hinside
  have hcode := not_isComment_of_mem_ownUnits hinner.given
  obtain ⟨outerName, -, houterLoc⟩ := Context.exists_locates_of_mem_ownUnits houter.given
  obtain ⟨innerName, hinnerName, hinnerLoc⟩ :=
    Context.exists_locates_of_mem_ownUnits hinner.given
  -- the outer unit ends with the last token of the body, where the inner node stands
  obtain ⟨child, hchild, hway⟩ := hbelow
  obtain ⟨statement, hstatement⟩ := exists_lastCodeChild? hchild
    ((hbodyWf.of_mem_children hchild).inOrder.not_isComment_of_within hway hcode)
  have houterEnd : outer.endLine = (lastToken body).info.stop.row + 1 := by
    have hlast : lastStatement? p = some statement := by
      rw [lastStatement?_of_isDefinition hdefinition, hbody, Option.bind_some, hstatement]
    rw [houterLoc.endLine, hlast, lastToken_of_lastCodeChild? hstatement]
    simp only [codeEnd_eq]
  refine ⟨?_, hinnerLoc.startLine_le hinnerName hq, ?_⟩
  · have hrows := hp.stands.start.row_le hq.stands.start hbehind
    rw [houterLoc.startLine, hinnerLoc.startLine]
    omega
  · rw [houterEnd]
    exact hinnerLoc.endLine_le hinnerName hcode hbodyWf (.child hchild hway)

/-! ### A class with an assignment over two lines -/

/-- A class whose body is an assignment over two lines, and a comment. -/
def spreadSource : String := "class A:\n    x = (1,\n        2)\n    # end\n"

/-- The target of the assignment. -/
def spreadTarget : Node :=
  .mk { kind := "identifier", field := some "left"
        startByte := 13, endByte := 14, start := ⟨1, 4⟩, stop := ⟨1, 5⟩ } []

/-- The assignment. -/
def spreadAssignment : Node :=
  .mk { kind := "assignment"
        startByte := 13, endByte := 31, start := ⟨1, 4⟩, stop := ⟨2, 10⟩ }
    [spreadTarget,
      .mk { kind := "=", named := false
            startByte := 15, endByte := 16, start := ⟨1, 6⟩, stop := ⟨1, 7⟩ } [],
      .mk { kind := "tuple", field := some "right"
            startByte := 17, endByte := 31, start := ⟨1, 8⟩, stop := ⟨2, 10⟩ } []]

/-- The statement that is the assignment. -/
def spreadStatement : Node :=
  .mk { kind := "expression_statement"
        startByte := 13, endByte := 31, start := ⟨1, 4⟩, stop := ⟨2, 10⟩ } [spreadAssignment]

/-- The body of the class: the statement, and the comment. -/
def spreadBody : Node :=
  .mk { kind := "block", field := some "body"
        startByte := 13, endByte := 41, start := ⟨1, 4⟩, stop := ⟨3, 9⟩ }
    [spreadStatement,
      .mk { kind := "comment"
            startByte := 36, endByte := 41, start := ⟨3, 4⟩, stop := ⟨3, 9⟩ } []]

/-- The class. -/
def spreadClass : Node :=
  .mk { kind := "class_definition"
        startByte := 0, endByte := 41, start := ⟨0, 0⟩, stop := ⟨3, 9⟩ }
    [.mk { kind := "identifier", field := some "name"
           startByte := 6, endByte := 7, start := ⟨0, 6⟩, stop := ⟨0, 7⟩ } [],
      spreadBody]

/-- The file with the class. -/
def spreadFile : Node :=
  .mk { kind := "module"
        startByte := 0, endByte := 42, start := ⟨0, 0⟩, stop := ⟨4, 0⟩ } [spreadClass]

/-- The assignment gives the unit of its target. -/
lemma ownUnits_spreadAssignment (c : Context) :
    c.ownUnits ⟨some spreadStatement, spreadAssignment⟩ =
      [c.unit .variable (c.textOf spreadTarget) [] none none
        (assignmentSpan spreadAssignment spreadTarget c.lines)] := by
  have hchain : chain spreadAssignment = [spreadAssignment] := by
    rw [chain]
    rfl
  have htarget : nameTarget? spreadTarget = some spreadTarget := by
    rw [nameTarget?]
    rfl
  have hlink : c.linkUnit? spreadAssignment spreadAssignment =
      some (c.unit .variable (c.textOf spreadTarget) [] none none
        (assignmentSpan spreadAssignment spreadTarget c.lines)) := by
    have hleft : spreadAssignment.childByField? "left" = some spreadTarget := rfl
    simp only [Context.linkUnit?, hleft, Option.bind_some, htarget, Option.map_some]
  have hrole : classify ⟨some spreadStatement, spreadAssignment⟩ = .assignment := rfl
  simp only [Context.ownUnits, hrole, Context.variableUnits, hchain, List.filterMap_cons, hlink,
    List.filterMap_nil]

/-- The lines of the variable are among those of the class. -/
theorem spreadFile_lines_nest :
    spreadFile.WellFormed spreadSource.toList ∧
      ∃ outer ∈ extractUnits "a.py" spreadSource spreadFile,
        ∃ inner ∈ extractUnits "a.py" spreadSource spreadFile,
          outer.name = "A" ∧ inner.name = "x" ∧ outer.startLine ≤ inner.startLine ∧
            inner.startLine ≤ inner.endLine ∧ inner.endLine ≤ outer.endLine := by
  have hwf : spreadFile.WellFormed spreadSource.toList := by decide
  let c := Context.ofFile "a.py" spreadSource
  let p : Placed := ⟨some spreadFile, spreadClass⟩
  let q : Placed := ⟨some spreadStatement, spreadAssignment⟩
  have hvisits : p ∈ visits ⟨none, spreadFile⟩ ∧ q ∈ visits ⟨none, spreadFile⟩ := by
    simp [visits_eq, Placed.namedChildren, Node.namedChildren, Node.children, Node.info, p, q,
      spreadFile, spreadClass, spreadBody, spreadStatement, spreadAssignment, spreadTarget]
  have houter : UnitAt "a.py" spreadSource spreadFile p
      (c.unit .classDef "A" [] none (some []) (definitionSpan spreadClass c.lines)) :=
    ⟨hvisits.1, List.mem_singleton_self _⟩
  have hinner : UnitAt "a.py" spreadSource spreadFile q
      (c.unit .variable "x" [] none none
        (assignmentSpan spreadAssignment spreadTarget c.lines)) :=
    ⟨hvisits.2, by rw [ownUnits_spreadAssignment]; exact List.mem_singleton_self _⟩
  have hbelow : q.node.Below spreadBody :=
    ⟨spreadStatement, List.mem_cons_self, .child List.mem_cons_self .refl⟩
  exact ⟨hwf, _, mem_extractUnits_iff.mpr ⟨p, houter⟩, _, mem_extractUnits_iff.mpr ⟨q, hinner⟩,
    rfl, rfl, extractUnits_lines_nest "a.py" spreadSource spreadFile hwf p q _ _ houter hinner rfl
      spreadBody rfl hbelow⟩

end Extraction

end CodeCatalog
