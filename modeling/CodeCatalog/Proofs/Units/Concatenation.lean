import CodeCatalog.Proofs.Syntax.Moved
import CodeCatalog.Proofs.Units.Comments
import CodeCatalog.Proofs.Units.Nesting

/-!
# Units of sources that are put together

The units of two sources, one behind the other, are those of the first and those of the second,
moved down by the lines of the first. A tree that is moved down gives the same units further down,
wherever a source shows the same text at the new place as another one did at the old place.

## Main definitions

* `CodeCatalog.CodeUnit.moved` — a unit moved down.
* `CodeCatalog.Extraction.Context.Carries` — a source that shows a node at its new place as another
  one did at its old place.

## Main results

* `CodeCatalog.Extraction.Context.ownUnits_moved` — the units of a node that is moved.
* `CodeCatalog.Extraction.Context.unitsBelow_moved` — the units of a tree that is moved.
* `CodeCatalog.Extraction.extractUnits_append` — the units of two sources that are put together.
-/

namespace CodeCatalog

open Syntax

open Node

/-! ## Descents -/

section Descents

variable (rows bytes : Nat) (n : Node)

/-- The first child that is no comment moves along with its node. -/
lemma firstCodeChild?_moved :
    firstCodeChild? (n.moved rows bytes) = (firstCodeChild? n).map (moved rows bytes) := by
  rw [firstCodeChild?, namedChildren_moved, List.find?_map, firstCodeChild?]
  simp only [Function.comp_def, isComment_moved]

/-- The last child that is no comment moves along with its node. -/
lemma lastCodeChild?_moved :
    lastCodeChild? (n.moved rows bytes) = (lastCodeChild? n).map (moved rows bytes) := by
  rw [lastCodeChild?, children_moved, ← List.map_reverse, List.find?_map, lastCodeChild?]
  simp only [Function.comp_def, isComment_moved]

/-- The only node in a target moves along with it. -/
lemma onlyInside?_moved :
    onlyInside? (n.moved rows bytes) = (onlyInside? n).map (moved rows bytes) := by
  have hcode : (n.moved rows bytes).namedChildren.filter (fun c => !c.isComment) =
      (n.namedChildren.filter fun c => !c.isComment).map (moved rows bytes) := by
    rw [namedChildren_moved, List.filter_map]
    simp only [Function.comp_def, isComment_moved]
  refine onlyInside?_map (moved rows bytes) ?_ hcode
  rw [children_moved, List.any_map]
  simp only [Function.comp_def, kind_moved]

/-- The name that a target binds moves along with it. -/
lemma nameTarget?_moved :
    nameTarget? (n.moved rows bytes) = (nameTarget? n).map (moved rows bytes) :=
  nameTarget?_map (kind_moved rows bytes) (onlyInside?_moved rows bytes) n

/-- The last token of a tree moves along with it. -/
lemma lastToken_moved : lastToken (n.moved rows bytes) = (lastToken n).moved rows bytes :=
  lastToken_map (lastCodeChild?_moved rows bytes) n

/-- The end of the code of a tree moves along with it. -/
lemma codeEnd_moved : codeEnd (n.moved rows bytes) = (codeEnd n).moved rows := by
  rw [codeEnd_eq, lastToken_moved, info_moved, codeEnd_eq]
  rfl

end Descents

namespace Extraction

/-- The links of a chain move along with it. -/
lemma chain_moved (rows bytes : Nat) (link : Node) :
    chain (link.moved rows bytes) = (chain link).map (moved rows bytes) :=
  chain_map (P := fun _ => True) (fun _ _ => trivial) (kind_moved rows bytes)
    (fun n _ => childByField?_moved rows bytes n "right") trivial

end Extraction

/-! ## Units that are moved -/

/-- A span moved down. -/
def Span.moved (rows : Nat) (s : Span) : Span :=
  { s with startLine := s.startLine + rows, endLine := s.endLine + rows }

/-- A unit moved down. -/
def CodeUnit.moved (rows : Nat) (u : CodeUnit) : CodeUnit :=
  { u with startLine := u.startLine + rows, endLine := u.endLine + rows }

/-- A node and the node above it, moved down. -/
def Placed.moved (rows bytes : Nat) (p : Placed) : Placed :=
  ⟨p.parent.map (Node.moved rows bytes), p.node.moved rows bytes⟩

/-- The named children of a placed node move along with it. -/
lemma Placed.namedChildren_moved (rows bytes : Nat) (p : Placed) :
    (p.moved rows bytes).namedChildren = p.namedChildren.map (Placed.moved rows bytes) := by
  simp only [namedChildren, moved, Node.namedChildren_moved, List.map_map, Function.comp_def,
    Option.map_some]

namespace Extraction.Context

/-- A node that a source shows at its new place, moved down by rows and bytes, as another source
shows it at its old place: its text, and the lines up to where it begins or its code ends. -/
structure Carries (c c' : Context) (rows bytes : Nat) (n : Node) : Prop where
  text : c'.textOf (n.moved rows bytes) = c.textOf n
  lines : ∀ first, ∀ last ∈ [n.info.start.row, (codeEnd n).row],
    Text.sliceLines c'.lines (first + 1 + rows) (last + 1 + rows) =
      Text.sliceLines c.lines (first + 1) (last + 1)

section Moved

variable {c c' : Context} {rows bytes : Nat} {n : Node}

/-- The lines up to the start of a carried node are those of its own source. -/
lemma Carries.startLines (h : c.Carries c' rows bytes n) (first : Nat) :
    Text.sliceLines c'.lines (first + 1 + rows) (n.info.start.row + 1 + rows) =
      Text.sliceLines c.lines (first + 1) (n.info.start.row + 1) :=
  h.lines first _ (by simp)

/-- The lines up to the end of the code of a carried node are those of its own source. -/
lemma Carries.codeLines (h : c.Carries c' rows bytes n) (first : Nat) :
    Text.sliceLines c'.lines (first + 1 + rows) ((codeEnd n).row + 1 + rows) =
      Text.sliceLines c.lines (first + 1) ((codeEnd n).row + 1) :=
  h.lines first _ (by simp)

/-- The name of an expression that is moved. -/
lemma bareName?_moved (h : n.Everywhere (c.Carries c' rows bytes)) :
    bareName? c'.source (n.moved rows bytes) = bareName? c.source n :=
  bareName?_map (fun hn hc => Everywhere.of_mem_children hn hc) (kind_moved rows bytes)
    (fun n hn => (hn n .refl).text) (firstCodeChild?_moved rows bytes) h

/-- The span of a definition is moved with it. -/
lemma definitionSpan_moved (h : n.Everywhere (c.Carries c' rows bytes)) :
    definitionSpan (n.moved rows bytes) c'.lines = (definitionSpan n c.lines).moved rows := by
  have hlast : ((n.moved rows bytes).childByField? "body").bind lastCodeChild? =
      ((n.childByField? "body").bind lastCodeChild?).map (Node.moved rows bytes) := by
    rw [childByField?_moved]
    cases n.childByField? "body" with
    | none => rfl
    | some body => exact lastCodeChild?_moved rows bytes body
  unfold definitionSpan
  rw [hlast, info_moved]
  cases hfound : (n.childByField? "body").bind lastCodeChild? with
  | none =>
    have hlines := (h n .refl).startLines n.info.start.row
    simp only [Option.map_none, NodeInfo.moved, Point.moved, Span.moved,
      Nat.add_right_comm _ rows 1, hlines]
  | some statement =>
    obtain ⟨body, hbody, hstatement⟩ := Option.bind_eq_some_iff.mp hfound
    have hlines := (h statement (.child (mem_children_of_childByField? hbody)
      (.child (mem_children_of_lastCodeChild? hstatement) .refl))).codeLines n.info.start.row
    simp only [Option.map_some, NodeInfo.moved, Point.moved, codeEnd_moved, Span.moved,
      Nat.add_right_comm _ rows 1, hlines]

/-- The span of a target is moved with its statement. -/
lemma assignmentSpan_moved (h : c.Carries c' rows bytes n) (target : Node) :
    assignmentSpan (n.moved rows bytes) (target.moved rows bytes) c'.lines =
      (assignmentSpan n target c.lines).moved rows := by
  have hlines := h.codeLines n.info.start.row
  simp only [assignmentSpan, info_moved, NodeInfo.moved, Point.moved, codeEnd_moved, Span.moved,
    Nat.add_right_comm _ rows 1, hlines]

/-- The form of a parameter that is moved. -/
lemma parameterForm_moved (h : n.Everywhere (c.Carries c' rows bytes)) :
    c'.parameterForm (n.moved rows bytes) = c.parameterForm n := by
  have hwords {x : Option Node} (hx : ∀ word ∈ x, word ∈ n.children) :
      Option.Rel (c.SameWord c') x (x.map (Node.moved rows bytes)) := by
    cases x with
    | none => exact .none
    | some word => exact .some ⟨kind_moved .., fun _ => (h word (.child (hx word rfl) .refl)).text⟩
  refine parameterForm_congr ⟨kind_moved .., fun _ => (h n .refl).text⟩ (fun _ => ?_) fun _ => ?_
  · rw [namedChildren_moved, List.head?_map]
    exact hwords fun word hword => (List.mem_filter.mp (List.mem_of_mem_head? hword)).1
  · rw [childByField?_moved]
    exact hwords fun word hword => mem_children_of_childByField? hword

/-- The decorators of a definition that is moved with the node above it. -/
lemma decoratorsOf_moved {p : Placed}
    (h : ∀ parent ∈ p.parent, parent.Everywhere (c.Carries c' rows bytes)) :
    c'.decoratorsOf (p.moved rows bytes) = c.decoratorsOf p := by
  unfold decoratorsOf
  cases hparent : p.parent with
  | none => simp [Placed.moved, hparent]
  | some parent =>
    have hinside := h parent hparent
    simp only [Placed.moved, hparent, Option.map_some, kind_moved]
    split
    · rw [namedChildren_moved, List.filter_map, List.filterMap_map]
      simp only [Function.comp_def, kind_moved]
      refine List.filterMap_congr fun decorator hdecorator => ?_
      have hmem := mem_children_of_mem_namedChildren (List.mem_filter.mp hdecorator).1
      rw [firstCodeChild?_moved]
      cases hfirst : firstCodeChild? decorator with
      | none => rfl
      | some expression =>
        exact bareName?_moved (hinside.of_within
          (.child hmem (.child (mem_children_of_firstCodeChild? hfirst) .refl)))
    · rfl

/-- The base classes that are moved. -/
lemma baseNames_moved (h : n.Everywhere (c.Carries c' rows bytes)) :
    c'.baseNames (n.moved rows bytes) = c.baseNames n := by
  rw [baseNames, namedChildren_moved, List.filterMap_map, baseNames]
  refine List.filterMap_congr fun argument hargument => ?_
  exact bareName?_moved (h.of_mem_children (mem_children_of_mem_namedChildren hargument))

/-- The parameters that are moved. -/
lemma positionalParameters_moved (h : n.Everywhere (c.Carries c' rows bytes)) :
    c'.positionalParameters (n.moved rows bytes) = c.positionalParameters n := by
  rw [positionalParameters, namedChildren_moved]
  refine gatherParameters_congr (List.forall₂_map_right_iff.mpr (List.forall₂_same.mpr ?_))
  exact fun m hm => parameterForm_moved (h.of_mem_children (mem_children_of_mem_namedChildren hm))

/-- A node that is carried over has the same name. -/
lemma nameOf?_moved (h : n.Everywhere (c.Carries c' rows bytes)) :
    c'.nameOf? (n.moved rows bytes) = c.nameOf? n := by
  rw [nameOf?, childByField?_moved, nameOf?]
  cases hname : n.childByField? "name" with
  | none => rfl
  | some name =>
    exact congrArg some (h name (.child (mem_children_of_childByField? hname) .refl)).text

/-- A placed node that is moved is of the same class. -/
lemma classify_moved (p : Placed) : classify (p.moved rows bytes) = classify p := by
  refine classify_congr (kind_moved ..) ?_ fun field => ?_
  · rw [Placed.moved, Option.map_map]
    exact Option.map_congr fun parent _ => kind_moved ..
  · rw [Placed.moved, childByField?_moved, Option.isSome_map]

variable {p : Placed}

/-- The unit of a function is moved with it. -/
lemma functionUnit?_moved (hpath : c'.filePath = c.filePath)
    (hparent : ∀ parent ∈ p.parent, parent.Everywhere (c.Carries c' rows bytes))
    (h : p.node.Everywhere (c.Carries c' rows bytes)) :
    c'.functionUnit? (p.moved rows bytes) = (c.functionUnit? p).map (CodeUnit.moved rows) := by
  have hparameters : ((p.node.moved rows bytes).childByField? "parameters").map
      c'.positionalParameters = (p.node.childByField? "parameters").map c.positionalParameters := by
    rw [childByField?_moved]
    cases hfound : p.node.childByField? "parameters" with
    | none => rfl
    | some parameters =>
      have hinside := h.of_mem_children (mem_children_of_childByField? hfound)
      exact congrArg some (positionalParameters_moved hinside)
  unfold functionUnit?
  rw [decoratorsOf_moved hparent, Option.map_map]
  simp only [Placed.moved, nameOf?_moved h, hparameters, definitionSpan_moved h]
  simp only [unit, hpath, Span.moved, CodeUnit.moved, Function.comp_def]

/-- The unit of a class is moved with it. -/
lemma classUnit?_moved (hpath : c'.filePath = c.filePath)
    (hparent : ∀ parent ∈ p.parent, parent.Everywhere (c.Carries c' rows bytes))
    (h : p.node.Everywhere (c.Carries c' rows bytes)) :
    c'.classUnit? (p.moved rows bytes) = (c.classUnit? p).map (CodeUnit.moved rows) := by
  have hbases : ((p.node.moved rows bytes).childByField? "superclasses").map c'.baseNames =
      (p.node.childByField? "superclasses").map c.baseNames := by
    rw [childByField?_moved]
    cases hfound : p.node.childByField? "superclasses" with
    | none => rfl
    | some bases =>
      have hinside := h.of_mem_children (mem_children_of_childByField? hfound)
      exact congrArg some (baseNames_moved hinside)
  unfold classUnit?
  rw [decoratorsOf_moved hparent, Option.map_map]
  simp only [Placed.moved, nameOf?_moved h, hbases, definitionSpan_moved h]
  simp only [unit, hpath, Span.moved, CodeUnit.moved, Function.comp_def]

/-- The units of an assignment are moved with it. -/
lemma variableUnits_moved (hpath : c'.filePath = c.filePath)
    (h : n.Everywhere (c.Carries c' rows bytes)) :
    c'.variableUnits (n.moved rows bytes) = (c.variableUnits n).map (CodeUnit.moved rows) := by
  rw [variableUnits, chain_moved, List.filterMap_map, variableUnits, List.map_filterMap]
  refine List.filterMap_congr fun link hlink => ?_
  rw [Function.comp_apply, linkUnit?, linkUnit?, childByField?_moved]
  cases hleft : link.childByField? "left" with
  | none => rfl
  | some left =>
    rw [Option.map_some, Option.bind_some, Option.bind_some, nameTarget?_moved, Option.map_map,
      Option.map_map]
    refine Option.map_congr fun target htarget => ?_
    have hinside : target.Within n := (within_of_nameTarget? htarget).1.trans
      (.trans (.child (mem_children_of_childByField? hleft) .refl) (within_of_mem_chain hlink))
    simp only [Function.comp_apply, (h target hinside).text, assignmentSpan_moved (h n .refl)]
    simp only [unit, hpath, Span.moved, CodeUnit.moved]

/-- **The units of a node are moved with it.** -/
lemma ownUnits_moved (hpath : c'.filePath = c.filePath)
    (hparent : ∀ parent ∈ p.parent, parent.Everywhere (c.Carries c' rows bytes))
    (h : p.node.Everywhere (c.Carries c' rows bytes)) :
    c'.ownUnits (p.moved rows bytes) = (c.ownUnits p).map (CodeUnit.moved rows) := by
  unfold ownUnits
  rw [classify_moved]
  cases classify p with
  | function =>
    simp only [functionUnit?_moved hpath hparent h]
    cases c.functionUnit? p <;> rfl
  | classDef =>
    simp only [classUnit?_moved hpath hparent h]
    cases c.classUnit? p <;> rfl
  | assignment => exact variableUnits_moved hpath h
  | other => rfl

/-- **The units of a tree are moved with it.**

**Proof sketch.** Induction over the tree; the node itself is the node above its children. -/
lemma unitsBelow_moved (hpath : c'.filePath = c.filePath)
    (hparent : ∀ parent ∈ p.parent, parent.Everywhere (c.Carries c' rows bytes))
    (h : p.node.Everywhere (c.Carries c' rows bytes)) :
    c'.unitsBelow (p.moved rows bytes) = (c.unitsBelow p).map (CodeUnit.moved rows) := by
  induction p using namedChildren_induction with
  | step p ih =>
    rw [unitsBelow, below_eq, unitsBelow, below_eq, ownUnits_moved hpath hparent h,
      Placed.namedChildren_moved, List.flatMap_map, List.map_append, List.map_flatMap]
    congr 1
    refine List.flatMap_congr fun q hq => ?_
    obtain ⟨child, hchild, rfl⟩ := List.mem_map.mp hq
    refine ih _ hq (fun parent hparent => ?_) (h.of_mem_children (List.mem_filter.mp hchild).1)
    obtain rfl : p.node = parent := by simpa using hparent
    exact h

end Moved

/-! ## Below a module -/

section Module

variable {c : Context} {parent n : Node}

/-- What stands below a module directly has the units that it has on its own. -/
lemma unitsBelow_of_module (h : parent.kind = "module") :
    c.unitsBelow ⟨some parent, n⟩ = c.unitsBelow ⟨none, n⟩ := by
  have hrole : classify ⟨some parent, n⟩ = classify ⟨none, n⟩ := by
    simp [classify, isPlainAssignment, h]
  have hdecorators : c.decoratorsOf ⟨some parent, n⟩ = c.decoratorsOf ⟨none, n⟩ := by
    simp [decoratorsOf, h]
  rw [unitsBelow, below_eq, unitsBelow, below_eq]
  congr 1
  unfold ownUnits functionUnit? classUnit?
  rw [hrole, hdecorators]

/-- The units of a module are those of its children. -/
lemma walk_of_module (h : n.kind = "module") :
    c.walk ⟨none, n⟩ = n.namedChildren.flatMap fun child => c.unitsBelow ⟨none, child⟩ := by
  have hown : c.ownUnits ⟨none, n⟩ = [] := by simp [ownUnits, classify, h]
  rw [walk_eq_unitsBelow, unitsBelow, below_eq, hown, List.nil_append, Placed.namedChildren,
    List.flatMap_map]
  exact List.flatMap_congr fun child _ => unitsBelow_of_module h

end Module

end Extraction.Context

namespace Extraction

/-! ## Two sources, one behind the other -/

section Append

variable {filePath front back : String} {n : Node}

/-- The first source is shown by both together as it was, line for line. -/
lemma carries_front (hfront : front.toList.getLast? = some '\n')
    (hstands : n.info.Stands front.toList)
    (hlines : ∀ last ∈ [n.info.start.row, (codeEnd n).row],
      last < (Text.physicalLines front).length) :
    (Context.ofFile filePath front).Carries (Context.ofFile filePath (front ++ back)) 0 0 n where
  text := by
    rw [moved_zero]
    simp only [Context.textOf, Context.ofFile, Node.text, String.toList_append]
    exact hstands.start.between_append hstands.stop hstands.order back.toList
  lines := by
    intro first last hlast
    have hle : last + 1 + 0 ≤ (Text.physicalLines front).length := hlines last hlast
    simp only [Context.ofFile, Text.physicalLines_append hfront]
    exact Text.sliceLines_append_left _ _ hle

/-- The second source is shown by both together further down. -/
lemma carries_back (hfront : front.toList.getLast? = some '\n') (n : Node) :
    (Context.ofFile filePath back).Carries (Context.ofFile filePath (front ++ back))
      (front.toList.count '\n') (Text.byteSize front.toList) n where
  text := by
    simp only [Context.textOf, Context.ofFile, Node.text, info_moved, NodeInfo.moved,
      String.toList_append]
    exact Text.between_append front.toList back.toList _ _
  lines := by
    intro first last _
    simp only [Context.ofFile, Text.physicalLines_append hfront,
      ← Text.length_physicalLines hfront]
    exact Text.sliceLines_append_right _ _ first last

/-- **Two sources that are put together** have the units of the first one and, behind them, those
of the second one moved down. The first source ends with a line feed, and everything in its module
begins on one of its lines and has the end of its code on one of them. The module of both has the
children of the first and, behind them, those of the second, moved down by the lines and the bytes
of the first source.

**Proof sketch.** A module has the units of its children (`Context.walk_of_module`). The children
of the first module stay where they are, and the text and the lines there are the same
(`carries_front`); those of the second are moved, and so are text and lines (`carries_back`).
Units are moved with their nodes (`Context.unitsBelow_moved`). -/
theorem extractUnits_append (filePath front back : String) (frontRoot backRoot root : Node)
    (hfront : front.toList.getLast? = some '\n')
    (hwf : frontRoot.WellFormed front.toList)
    (hfrontModule : frontRoot.kind = "module") (hbackModule : backRoot.kind = "module")
    (hlines : ∀ n, n.Below frontRoot →
      n.info.start.row < (Text.physicalLines front).length ∧
        (codeEnd n).row < (Text.physicalLines front).length)
    (hmodule : root.kind = "module")
    (hchildren : root.children = frontRoot.children ++
      backRoot.children.map (moved (front.toList.count '\n') (Text.byteSize front.toList))) :
    extractUnits filePath (front ++ back) root =
      extractUnits filePath front frontRoot ++
        (extractUnits filePath back backRoot).map (CodeUnit.moved (front.toList.count '\n')) := by
  set rows := front.toList.count '\n'
  set bytes := Text.byteSize front.toList
  set c := Context.ofFile filePath (front ++ back)
  have hnamed : root.namedChildren =
      frontRoot.namedChildren ++ backRoot.namedChildren.map (moved rows bytes) := by
    rw [namedChildren, hchildren, List.filter_append, List.filter_map]
    simp only [Function.comp_def, named_moved]
    rfl
  have hkeep : ∀ child ∈ frontRoot.namedChildren, c.unitsBelow ⟨none, child⟩ =
      (Context.ofFile filePath front).unitsBelow ⟨none, child⟩ := by
    intro child hchild
    have hmem := (List.mem_filter.mp hchild).1
    have hcarries : child.Everywhere ((Context.ofFile filePath front).Carries c 0 0) := by
      intro n hn
      obtain ⟨hstart, hend⟩ := hlines n ⟨child, hmem, hn⟩
      exact carries_front hfront (hwf.within (.child hmem hn)).1.stands (by simp [hstart, hend])
    have hmoved : c.unitsBelow (Placed.moved 0 0 ⟨none, child⟩) =
        ((Context.ofFile filePath front).unitsBelow ⟨none, child⟩).map (CodeUnit.moved 0) :=
      Context.unitsBelow_moved rfl (by simp) hcarries
    have hsame : CodeUnit.moved 0 = id := rfl
    rwa [Placed.moved, Option.map_none, moved_zero, hsame, List.map_id] at hmoved
  have hmove : ∀ child ∈ backRoot.namedChildren, c.unitsBelow ⟨none, child.moved rows bytes⟩ =
      ((Context.ofFile filePath back).unitsBelow ⟨none, child⟩).map (CodeUnit.moved rows) :=
    fun child _ => Context.unitsBelow_moved (p := ⟨none, child⟩) rfl (by simp)
      fun n _ => carries_back hfront n
  rw [extractUnits, Context.walk_of_module hmodule, hnamed, List.flatMap_append, List.flatMap_map,
    List.flatMap_congr hkeep, List.flatMap_congr hmove, ← List.map_flatMap, extractUnits,
    Context.walk_of_module hfrontModule, extractUnits, Context.walk_of_module hbackModule]

end Append

/-! ### A function, and a class behind it -/

/-- The module of both sources: the function stays where it is, and the class is moved down. -/
def joinedFile : Node :=
  .mk { kind := "module"
        startByte := 0, endByte := 70, start := ⟨0, 0⟩, stop := ⟨7, 0⟩ }
    [commentedFunction, spreadClass.moved 3 28]

/-- Everything in the first source is on one of its three lines. -/
lemma rows_commentedFile : ∀ n, n.Below commentedFile →
    n.info.start.row < 3 ∧ (codeEnd n).row < 3 := by
  have hrows : commentedFunction.Everywhere fun n =>
      n.info.start.row < 3 ∧ n.info.stop.row < 3 := by
    simp [commentedFunction, commentedBody, everywhere_mk, Node.info]
  rintro n ⟨child, hchild, hn⟩
  obtain rfl : child = commentedFunction := List.mem_singleton.mp hchild
  rw [codeEnd_eq]
  exact ⟨(hrows n hn).1, (hrows _ ((lastToken_within n).trans hn)).2⟩

/-- The units of both sources are those of the first and those of the second, three lines further
down; the class is one of them. -/
theorem joinedFile_units :
    commentedFile.WellFormed commentedSource.toList ∧
      spreadFile.WellFormed spreadSource.toList ∧
      joinedFile.WellFormed (commentedSource ++ spreadSource).toList ∧
      extractUnits "a.py" (commentedSource ++ spreadSource) joinedFile =
        extractUnits "a.py" commentedSource commentedFile ++
          (extractUnits "a.py" spreadSource spreadFile).map (CodeUnit.moved 3) ∧
      ∃ u ∈ extractUnits "a.py" (commentedSource ++ spreadSource) joinedFile,
        u.name = "A" ∧ u.startLine = 4 := by
  have hwf : commentedFile.WellFormed commentedSource.toList := by decide
  have hunits := extractUnits_append "a.py" commentedSource spreadSource commentedFile spreadFile
    joinedFile (by decide) hwf rfl rfl rows_commentedFile rfl rfl
  refine ⟨hwf, by decide, by decide, hunits, ?_⟩
  let c := Context.ofFile "a.py" spreadSource
  have hclass : UnitAt "a.py" spreadSource spreadFile ⟨some spreadFile, spreadClass⟩
      (c.unit .classDef "A" [] none (some []) (definitionSpan spreadClass c.lines)) :=
    ⟨by simp [visits_eq, Placed.namedChildren, Node.namedChildren, Node.children, Node.info,
        spreadFile, spreadClass, spreadBody, spreadStatement, spreadAssignment, spreadTarget],
      List.mem_singleton_self _⟩
  rw [hunits]
  exact ⟨_, List.mem_append_right _ (List.mem_map_of_mem (mem_extractUnits_iff.mpr ⟨_, hclass⟩)),
    rfl, rfl⟩

end Extraction

end CodeCatalog
