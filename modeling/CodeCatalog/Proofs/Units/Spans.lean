import CodeCatalog.Proofs.Units.Traversal
import CodeCatalog.Proofs.Units.WellFormed

/-!
# The lines of units

A unit has the lines from the begin of its node to the end of the last token of its code. Over a
well-formed tree these lines are in order, and their text contains the source of the unit, its
name included, as one piece.

## Main definitions

* `CodeCatalog.Extraction.lastStatement?` — the node whose code ends a unit.
* `CodeCatalog.Extraction.Context.Locates` — a node with a name, and the lines of a unit.

## Main results

* `CodeCatalog.Extraction.Context.exists_locates_of_mem_ownUnits` — every unit of a node has the
  lines of the node.
* `CodeCatalog.Extraction.extractUnits_covers_source` — the lines of a unit are in order and
  contain its source.
-/

namespace CodeCatalog.Extraction

open Syntax

/-! ## Where units are -/

/-- The node whose code ends the units of a node: the last statement in the body of a definition,
or an assignment itself. -/
def lastStatement? (p : Placed) : Option Node :=
  match classify p with
  | .function | .classDef => (p.node.childByField? "body").bind lastCodeChild?
  | .assignment => some p.node
  | .other => none

/-- A node that gives the name of a unit at a node. -/
inductive NamedBy (p : Placed) (name : Node) : Prop
  | definition (hkind : p.node.isDefinition) (hname : p.node.childByField? "name" = some name)
      (hlast : lastStatement? p = (p.node.childByField? "body").bind lastCodeChild?)
  | assignment (hname : name.Within p.node) (hkind : name.kind = "identifier")
      (hlast : lastStatement? p = some p.node)

/-- What a unit at a node has from the node: its name, its lines, and whether its end is known. -/
structure Context.Locates (c : Context) (p : Placed) (name : Node) (u : CodeUnit) : Prop where
  name : u.name = c.textOf name
  startLine : u.startLine = p.node.info.start.row + 1
  endLine : u.endLine = match lastStatement? p with
    | some statement => (codeEnd statement).row + 1
    | none => u.startLine
  endCol : u.endCol.isSome = (lastStatement? p).isSome
  text : u.sourceText = Text.sliceLines c.lines u.startLine u.endLine

/-- A name that is a target stands inside the target. -/
lemma within_of_nameTarget? {target name : Node} (h : nameTarget? target = some name) :
    name.Within target ∧ name.kind = "identifier" := by
  fun_induction nameTarget? target with
  | case1 target hkind =>
    cases h
    exact ⟨.refl, by simpa using hkind⟩
  | case2 target _ _ inner hinner ih =>
    obtain ⟨hwithin, hkind⟩ := ih h
    exact ⟨.child (mem_children_of_onlyInside? hinner) hwithin, hkind⟩
  | case3 => cases h
  | case4 => cases h

/-- The links of a chain of assignments stand inside the first one. -/
lemma within_of_mem_chain {statement link : Node} (h : link ∈ chain statement) :
    link.Within statement := by
  fun_induction chain statement with
  | case1 statement next hnext ih =>
    rcases List.mem_cons.mp h with rfl | h
    · exact .refl
    · exact .child (mem_children_of_nextLink? hnext) (ih h)
  | case2 statement hnone =>
    obtain rfl := List.mem_singleton.mp h
    exact .refl

/-- A unit with the span of a definition has the lines of the definition. -/
lemma Context.locates_definition (c : Context) {p : Placed} {name : Node} {u : CodeUnit}
    (hlast : lastStatement? p = (p.node.childByField? "body").bind lastCodeChild?)
    (hname : u.name = c.textOf name)
    (hspan : Span.mk u.startLine u.endLine u.startCol u.endCol u.sourceText =
      definitionSpan p.node c.lines) : c.Locates p name u := by
  simp only [definitionSpan, Span.mk.injEq] at hspan
  obtain ⟨hstart, hend, -, hcol, htext⟩ := hspan
  refine ⟨hname, hstart, ?_, ?_, ?_⟩
  · rw [hlast, hstart, hend]
    cases (p.node.childByField? "body").bind lastCodeChild? <;> rfl
  · rw [hlast, hcol]
    cases (p.node.childByField? "body").bind lastCodeChild? <;> rfl
  · rw [htext, hstart, hend]

/-- The role of a definition is its kind. -/
lemma isDefinition_of_classify {p : Placed}
    (h : classify p = .function ∨ classify p = .classDef) : p.node.isDefinition := by
  unfold classify at h
  unfold Node.isDefinition
  by_cases hfunction : p.node.kind == "function_definition"
  · rw [hfunction, Bool.true_or]
  · by_cases hclass : p.node.kind == "class_definition"
    · rw [hclass, Bool.or_true]
    · rw [if_neg hfunction, if_neg hclass] at h
      split at h <;> simp at h

/-- **Every unit of a node has the lines of the node**, and its name from a node inside. -/
lemma Context.exists_locates_of_mem_ownUnits {c : Context} {p : Placed} {u : CodeUnit}
    (hu : u ∈ c.ownUnits p) : ∃ name, NamedBy p name ∧ c.Locates p name u := by
  unfold Context.ownUnits at hu
  cases hrole : classify p with
  | function =>
    simp only [hrole, Option.mem_toList, Context.functionUnit?, Context.nameOf?, Option.map_map,
      Option.map_eq_some_iff] at hu
    obtain ⟨name, hname, rfl⟩ := hu
    have hlast : lastStatement? p = (p.node.childByField? "body").bind lastCodeChild? := by
      simp only [lastStatement?, hrole]
    exact ⟨name, .definition (isDefinition_of_classify (Or.inl hrole)) hname hlast,
      c.locates_definition hlast rfl rfl⟩
  | classDef =>
    simp only [hrole, Option.mem_toList, Context.classUnit?, Context.nameOf?, Option.map_map,
      Option.map_eq_some_iff] at hu
    obtain ⟨name, hname, rfl⟩ := hu
    have hlast : lastStatement? p = (p.node.childByField? "body").bind lastCodeChild? := by
      simp only [lastStatement?, hrole]
    exact ⟨name, .definition (isDefinition_of_classify (Or.inr hrole)) hname hlast,
      c.locates_definition hlast rfl rfl⟩
  | assignment =>
    simp only [hrole, Context.variableUnits, List.mem_filterMap, Context.linkUnit?,
      Option.map_eq_some_iff, Option.bind_eq_some_iff] at hu
    obtain ⟨link, hlink, target, ⟨left, hleft, htarget⟩, rfl⟩ := hu
    obtain ⟨hwithin, hkind⟩ := within_of_nameTarget? htarget
    have hlast : lastStatement? p = some p.node := by
      simp only [lastStatement?, hrole]
    have hinside : target.Within p.node :=
      hwithin.trans (.trans (.child (mem_children_of_childByField? hleft) .refl)
        (within_of_mem_chain hlink))
    exact ⟨target, .assignment hinside hkind hlast, rfl, rfl, by rw [hlast]; rfl,
      by rw [hlast]; rfl, rfl⟩
  | other => simp [hrole] at hu

/-! ## Units over well-formed trees -/

/-- The walk stays inside the tree. -/
lemma within_of_mem_visits {p q : Placed} (h : q ∈ visits p) : q.node.Within p.node := by
  induction p using namedChildren_induction with
  | step p ih =>
    rw [visits_eq] at h
    rcases List.mem_cons.mp h with rfl | h
    · exact .refl
    · obtain ⟨child, hchild, hq⟩ := List.mem_flatMap.mp h
      obtain ⟨n, hn, rfl⟩ := List.mem_map.mp hchild
      exact .child (List.mem_filter.mp hn).1 (ih _ hchild hq)

/-- A unit ends inside its node, and not before its name begins.

**Proof sketch.** The name of a definition ends before the body begins, and the last token of the
last statement is the last token of the body. The name of an assignment is no comment, so the
last token ends behind its begin. -/
lemma NamedBy.within {source : List Char} {p : Placed} {name statement : Node}
    (hname : NamedBy p name) (hp : p.node.WellFormed source)
    (hstatement : lastStatement? p = some statement) :
    statement.Within p.node ∧ name.Within p.node ∧
      name.info.startByte ≤ (lastToken statement).info.endByte := by
  cases hname with
  | definition hkind hname hlast =>
    rw [hlast] at hstatement
    obtain ⟨body, hbody, hstatement⟩ := Option.bind_eq_some_iff.mp hstatement
    have hbodyMem := mem_children_of_childByField? hbody
    have hnameMem := mem_children_of_childByField? hname
    refine ⟨.child hbodyMem (.child (mem_children_of_lastCodeChild? hstatement) .refl),
      .child hnameMem .refl, ?_⟩
    have horder := (hp.of_mem_children hnameMem).stands.order
    have hbefore := hp.arranged.name hkind name hname body hbody
    have hbehind := (hp.of_mem_children hbodyMem).startByte_le_lastToken
    rw [lastToken_of_lastCodeChild? hstatement] at hbehind
    omega
  | assignment hname hkind hlast =>
    obtain rfl : p.node = statement := Option.some.inj (hlast.symm.trans hstatement)
    have hcode : ¬ name.isComment := by simp [Node.isComment, hkind]
    exact ⟨.refl, hname, hp.startByte_le_endByte_lastToken hname hcode⟩

/-- A stretch of a source stands in the lines around it, both without the blanks at their ends. -/
lemma isInfix_sliceLines {source : String} {start stop : Nat} {startPoint stopPoint : Point}
    (hstart : IsAt source.toList start startPoint) (hstop : IsAt source.toList stop stopPoint)
    (hle : start ≤ stop) {first last : Nat} (hfirst : first ≤ startPoint.row)
    (hlast : stopPoint.row ≤ last) :
    (Text.trim (Text.between source.toList start stop)).toList <:+:
      (Text.sliceLines (Text.physicalLines source) (first + 1) (last + 1)).toList := by
  obtain ⟨before, piece, rest, hsource, hbetween, rfl, rfl⟩ := hstart.exists_split hstop hle
  rw [Text.trim, String.toList_ofList, hbetween]
  exact Text.trim_isInfix_sliceLines hsource hfirst hlast

/-- A text without blanks does not go over the end of a line. -/
lemma row_eq_of_not_isBlank {source : List Char} {start stop : Nat} {startPoint stopPoint : Point}
    (hstart : IsAt source start startPoint) (hstop : IsAt source stop stopPoint)
    (hle : start ≤ stop)
    (hblank : ∀ x ∈ (Text.between source start stop).toList, ¬ Text.isBlank x) :
    stopPoint.row = startPoint.row := by
  obtain ⟨before, piece, rest, -, hbetween, rfl, rfl⟩ := hstart.exists_split hstop hle
  have hfeed : '\n' ∉ piece := fun hmem => hblank '\n' (hbetween ▸ hmem) (by decide)
  simp only [Point.behind, List.count_append, List.count_eq_zero_of_not_mem hfeed, Nat.add_zero]

/-- **The lines of a unit contain its source**: over every tree that is well formed over a source,
the lines of every unit are in order. If the end of a unit is known, its text contains as one
piece what stands in the source from the begin of its node to the end of the last token of its
code, without the blanks at the ends, and also its name, if that has no blanks in it.

**Proof sketch.** A unit is one of a node that the walk visits, and has the lines of that node
(`Context.exists_locates_of_mem_ownUnits`). The last token of its code is inside the node and not
before its name (`NamedBy.within`), so both stretches lie between the first and the last line of
the unit, where trimming cannot reach them (`Text.trim_isInfix_sliceLines`). A name without
blanks ends in the row where it begins. -/
theorem extractUnits_covers_source (filePath source : String) (root : Node)
    (hroot : root.WellFormed source.toList) (u : CodeUnit)
    (hu : u ∈ extractUnits filePath source root) :
    1 ≤ u.startLine ∧ u.startLine ≤ u.endLine ∧
      ∃ p ∈ visits ⟨none, root⟩, u ∈ (Context.ofFile filePath source).ownUnits p ∧
        (u.endCol.isSome → ∃ statement, lastStatement? p = some statement ∧
          (lastToken statement).info.stop = codeEnd statement ∧
          (Text.trim (Text.between source.toList p.node.info.startByte
            (lastToken statement).info.endByte)).toList <:+: u.sourceText.toList ∧
          ((∀ x ∈ u.name.toList, ¬ Text.isBlank x) →
            u.name.toList <:+: u.sourceText.toList)) := by
  obtain ⟨p, hp, hup⟩ : ∃ p ∈ visits ⟨none, root⟩,
      u ∈ (Context.ofFile filePath source).ownUnits p := by
    rw [extractUnits, Context.walk_eq_flatMap_visits] at hu
    exact List.mem_flatMap.mp hu
  have hwf : p.node.WellFormed source.toList := (hroot.within (within_of_mem_visits hp)).1
  obtain ⟨name, hnamed, hloc⟩ := Context.exists_locates_of_mem_ownUnits hup
  have hfirst : 1 ≤ u.startLine := by rw [hloc.startLine]; omega
  cases hlast : lastStatement? p with
  | none =>
    have hline : u.endLine = u.startLine := by rw [hloc.endLine, hlast]
    have hcol : u.endCol.isSome = false := by rw [hloc.endCol, hlast]; rfl
    exact ⟨hfirst, hline.ge, p, hp, hup, fun hsome => by rw [hcol] at hsome; cases hsome⟩
  | some statement =>
    obtain ⟨hstatement, hnameIn, hnameBefore⟩ := hnamed.within hwf hlast
    set token := lastToken statement with htoken
    have htokenIn : token.Within p.node := (lastToken_within statement).trans hstatement
    obtain ⟨htokenWf, htokenStart, -⟩ := hwf.within htokenIn
    obtain ⟨hnameWf, hnameStart, -⟩ := hwf.within hnameIn
    have hend : u.endLine = token.info.stop.row + 1 := by
      rw [hloc.endLine, hlast, htoken]
      simp only [codeEnd_eq]
    have hle : p.node.info.startByte ≤ token.info.endByte :=
      Nat.le_trans htokenStart htokenWf.stands.order
    have hrows := hwf.stands.start.row_le htokenWf.stands.stop hle
    have htext : u.sourceText = Text.sliceLines (Text.physicalLines source)
        (p.node.info.start.row + 1) (token.info.stop.row + 1) := by
      rw [hloc.text, hloc.startLine, hend]
      rfl
    refine ⟨hfirst, by rw [hloc.startLine, hend]; omega, p, hp, hup, fun _ => ?_⟩
    refine ⟨statement, hlast, (codeEnd_eq statement).symm, ?_, fun hblank => ?_⟩
    · rw [htext]
      exact isInfix_sliceLines hwf.stands.start htokenWf.stands.stop hle le_rfl le_rfl
    · have hnameText : u.name = Text.between source.toList name.info.startByte
          name.info.endByte := hloc.name
      rw [hnameText] at hblank ⊢
      have hrow := row_eq_of_not_isBlank hnameWf.stands.start hnameWf.stands.stop
        hnameWf.stands.order hblank
      have hlow := hwf.stands.start.row_le hnameWf.stands.start hnameStart
      have hhigh := hnameWf.stands.start.row_le htokenWf.stands.stop hnameBefore
      have hinfix := isInfix_sliceLines hnameWf.stands.start hnameWf.stands.stop
        hnameWf.stands.order hlow (hrow.trans_le hhigh)
      rw [Text.trim, String.toList_ofList, Text.trimChars_eq_self hblank] at hinfix
      rw [htext]
      exact hinfix

/-! ### A function with a comment behind it -/

/-- A function whose body ends with a comment. -/
def commentedSource : String := "def f():\n    pass\n    # end\n"

/-- The body of the function: a statement, and the comment. -/
def commentedBody : Node :=
  .mk { kind := "block", field := some "body"
        startByte := 13, endByte := 27, start := ⟨1, 4⟩, stop := ⟨2, 9⟩ }
    [.mk { kind := "pass_statement"
           startByte := 13, endByte := 17, start := ⟨1, 4⟩, stop := ⟨1, 8⟩ } [],
      .mk { kind := "comment"
            startByte := 22, endByte := 27, start := ⟨2, 4⟩, stop := ⟨2, 9⟩ } []]

/-- The function. -/
def commentedFunction : Node :=
  .mk { kind := "function_definition"
        startByte := 0, endByte := 27, start := ⟨0, 0⟩, stop := ⟨2, 9⟩ }
    [.mk { kind := "identifier", field := some "name"
           startByte := 4, endByte := 5, start := ⟨0, 4⟩, stop := ⟨0, 5⟩ } [],
      commentedBody]

/-- The file with the function. -/
def commentedFile : Node :=
  .mk { kind := "module"
        startByte := 0, endByte := 28, start := ⟨0, 0⟩, stop := ⟨3, 0⟩ } [commentedFunction]

/-- The function has a unit whose end is known: its lines are in order, and its text contains its
name. -/
theorem commentedFile_covers_source :
    commentedFile.WellFormed commentedSource.toList ∧
      ∃ u ∈ extractUnits "a.py" commentedSource commentedFile,
        u.name = "f" ∧ u.endCol.isSome ∧ u.startLine ≤ u.endLine ∧
          u.name.toList <:+: u.sourceText.toList := by
  have hwf : commentedFile.WellFormed commentedSource.toList := by decide
  let c := Context.ofFile "a.py" commentedSource
  let p : Placed := ⟨some commentedFile, commentedFunction⟩
  let u := c.unit .function "f" [] (some []) none (definitionSpan commentedFunction c.lines)
  have hvisited : p ∈ visits ⟨none, commentedFile⟩ := by
    have hself : p ∈ visits p := by
      rw [visits_eq]
      exact List.mem_cons_self
    rw [visits_eq]
    exact List.mem_cons_of_mem _ (List.mem_flatMap.mpr ⟨p, List.mem_cons_self, hself⟩)
  have hu : u ∈ extractUnits "a.py" commentedSource commentedFile := by
    rw [extractUnits, Context.walk_eq_flatMap_visits]
    have hown : c.ownUnits p = [u] := rfl
    exact List.mem_flatMap.mpr ⟨p, hvisited, by rw [hown]; exact List.mem_singleton_self u⟩
  have hcol : u.endCol.isSome := rfl
  obtain ⟨-, hlines, q, -, -, hcovers⟩ :=
    extractUnits_covers_source "a.py" commentedSource commentedFile hwf u hu
  obtain ⟨-, -, -, -, hname⟩ := hcovers hcol
  have hblank : ∀ x ∈ u.name.toList, ¬ Text.isBlank x := by
    intro x hx
    obtain rfl : x = 'f' := by simpa [u, Context.unit] using hx
    decide
  exact ⟨hwf, u, hu, rfl, hcol, hlines, hname hblank⟩

end CodeCatalog.Extraction
