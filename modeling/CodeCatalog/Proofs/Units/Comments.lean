import CodeCatalog.Proofs.Syntax.Comments
import CodeCatalog.Proofs.Units.Images
import CodeCatalog.Proofs.Units.Parameters
import CodeCatalog.Proofs.Units.Spans

/-!
# Units and comments

Comments do not influence what is extracted from a tree. Everything that looks at children, the
walk, decorators, base classes, parameters, names in parentheses, targets, and the descent to the
last token, finds the same without comments.

## Main results

* `CodeCatalog.bareName?_withoutComments`, `nameTarget?_withoutComments`,
  `codeEnd_withoutComments` — the descents.
* `CodeCatalog.Extraction.Context.ownUnits_withoutComments` — the units of a node.
* `CodeCatalog.Extraction.Context.unitsBelow_withoutComments` — the units of a tree.
* `CodeCatalog.Extraction.extractUnits_dropComments` — the units of a file are the same, whichever
  comments are dropped.
-/

namespace CodeCatalog

open Syntax

open Node

/-! ## Descents -/

section Descents

variable (n : Node)

/-- The first named child that is no comment. -/
lemma firstCodeChild?_withoutComments :
    firstCodeChild? n.withoutComments = (firstCodeChild? n).map withoutComments := by
  rw [firstCodeChild?, namedChildren_withoutComments, List.find?_map, List.find?_filter,
    firstCodeChild?]
  refine congrArg (Option.map withoutComments) (List.find?_congr fun c _ => ?_)
  simp

/-- The last child that is no comment. -/
lemma lastCodeChild?_withoutComments :
    lastCodeChild? n.withoutComments = (lastCodeChild? n).map withoutComments := by
  rw [lastCodeChild?, children_withoutComments, codeChildren, ← List.map_reverse,
    ← List.filter_reverse, List.find?_map, List.find?_filter, lastCodeChild?]
  refine congrArg (Option.map withoutComments) (List.find?_congr fun c _ => ?_)
  simp

/-- The only child in parentheses. -/
lemma onlyInside?_withoutComments :
    onlyInside? n.withoutComments = (onlyInside? n).map withoutComments := by
  have hcomma : n.withoutComments.children.any (·.kind == ",") =
      n.children.any (·.kind == ",") := by
    rw [children_withoutComments, codeChildren, List.any_map, List.any_filter]
    congr 1
    funext c
    by_cases hcomment : c.isComment
    · simp [hcomment, isComment_iff.mp hcomment]
    · simp [hcomment]
  have hcode : n.withoutComments.namedChildren.filter (fun c => !c.isComment) =
      (n.namedChildren.filter fun c => !c.isComment).map withoutComments := by
    rw [namedChildren_withoutComments, List.filter_map, List.filter_filter]
    congr 2
    funext c
    simp
  exact onlyInside?_map withoutComments hcomma hcode

/-- The name of an expression does not depend on comments. -/
lemma bareName?_withoutComments (source : List Char) :
    bareName? source n.withoutComments = bareName? source n :=
  bareName?_map (P := fun _ => True) (fun _ _ => trivial) kind_withoutComments
    (fun n _ => text_withoutComments n source) firstCodeChild?_withoutComments trivial

/-- The name of a target does not depend on comments. -/
lemma nameTarget?_withoutComments :
    nameTarget? n.withoutComments = (nameTarget? n).map withoutComments :=
  nameTarget?_map kind_withoutComments onlyInside?_withoutComments n

/-- The last token is the same without comments. -/
lemma lastToken_withoutComments :
    lastToken n.withoutComments = (lastToken n).withoutComments :=
  lastToken_map lastCodeChild?_withoutComments n

/-- Where code ends does not depend on comments. -/
lemma codeEnd_withoutComments : codeEnd n.withoutComments = codeEnd n := by
  rw [codeEnd_eq, lastToken_withoutComments, info_withoutComments, codeEnd_eq]

end Descents

/-! ## Spans -/

/-- The span of a definition does not depend on comments. -/
lemma definitionSpan_withoutComments {n : Node} (h : n.Everywhere OrderlyComments)
    (lines : List String) : definitionSpan n.withoutComments lines = definitionSpan n lines := by
  have hlast : (n.withoutComments.childByField? "body").bind lastCodeChild? =
      ((n.childByField? "body").bind lastCodeChild?).map withoutComments := by
    rw [childByField?_withoutComments h]
    cases n.childByField? "body" with
    | none => rfl
    | some body => exact lastCodeChild?_withoutComments body
  unfold definitionSpan
  rw [hlast, info_withoutComments]
  cases (n.childByField? "body").bind lastCodeChild? with
  | none => rfl
  | some statement => simp only [Option.map_some, codeEnd_withoutComments]

/-- The span of a target does not depend on comments. -/
lemma assignmentSpan_withoutComments (statement target : Node) (lines : List String) :
    assignmentSpan statement.withoutComments target.withoutComments lines =
      assignmentSpan statement target lines := by
  simp only [assignmentSpan, info_withoutComments, codeEnd_withoutComments]

/-! ## Units -/

/-- A node and the node above it, without comments. -/
def Placed.withoutComments (p : Placed) : Placed :=
  ⟨p.parent.map Node.withoutComments, p.node.withoutComments⟩

namespace Extraction

/-- The links of a chain do not depend on comments. -/
lemma chain_withoutComments {link : Node} (h : link.Everywhere OrderlyComments) :
    chain link.withoutComments = (chain link).map withoutComments :=
  chain_map (fun hn hc => Everywhere.of_mem_children hn hc) kind_withoutComments
    (fun _ hn => childByField?_withoutComments hn "right") h

namespace Context

variable (c : Context)

/-- A node without its comments covers the same text. -/
lemma textOf_withoutComments (n : Node) : c.textOf n.withoutComments = c.textOf n :=
  text_withoutComments n c.source

/-- The first part of a parameter with a type, where it is no comment, is there without comments. -/
lemma head?_namedChildren_withoutComments {n : Node}
    (h : ∀ c ∈ n.namedChildren.head?, ¬ c.isComment) :
    n.withoutComments.namedChildren.head? = n.namedChildren.head?.map Node.withoutComments := by
  rw [namedChildren_withoutComments]
  cases hnamed : n.namedChildren with
  | nil => rfl
  | cons first rest =>
    have hfirst : ¬ first.isComment := h first (by rw [hnamed]; rfl)
    simp [hfirst]

/-- A node without its comments is the same word. -/
lemma sameWord_withoutComments (n : Node) : c.SameWord c n n.withoutComments :=
  ⟨kind_withoutComments n, fun _ => c.textOf_withoutComments n⟩

/-- The form of a parameter does not depend on comments. -/
lemma parameterForm_withoutComments {n : Node} (h : n.Everywhere OrderlyComments) :
    c.parameterForm n.withoutComments = c.parameterForm n := by
  have hwords (x : Option Node) : Option.Rel (c.SameWord c) x (x.map Node.withoutComments) := by
    cases x with
    | none => exact .none
    | some word => exact .some (c.sameWord_withoutComments word)
  refine parameterForm_congr (c.sameWord_withoutComments n) (fun htyped => ?_) fun _ => ?_
  · rw [head?_namedChildren_withoutComments ((h n .refl).parameter htyped)]
    exact hwords _
  · rw [childByField?_withoutComments h]
    exact hwords _

/-- The name of a decorator does not depend on comments. -/
lemma decoratorName_withoutComments (decorator : Node) :
    (firstCodeChild? decorator.withoutComments).bind (bareName? c.source) =
      (firstCodeChild? decorator).bind (bareName? c.source) := by
  rw [firstCodeChild?_withoutComments, Option.bind_map]
  congr 1
  funext expression
  exact bareName?_withoutComments expression c.source

/-- The decorators of a definition do not depend on comments. -/
lemma decoratorsOf_withoutComments (p : Placed) :
    c.decoratorsOf p.withoutComments = c.decoratorsOf p := by
  unfold decoratorsOf
  cases hparent : p.parent with
  | none => simp [Placed.withoutComments, hparent]
  | some parent =>
    simp only [Placed.withoutComments, hparent, Option.map_some, kind_withoutComments]
    split
    · have hdecorators : (parent.namedChildren.filter fun d => !d.isComment).filter
          (·.kind == "decorator") = parent.namedChildren.filter (·.kind == "decorator") := by
        rw [List.filter_filter]
        refine List.filter_congr fun d _ => ?_
        by_cases hkind : d.kind = "decorator"
        · simp [isComment, hkind]
        · simp [hkind]
      rw [namedChildren_withoutComments, List.filter_map, List.filterMap_map, ← hdecorators]
      simp only [Function.comp_def, kind_withoutComments, decoratorName_withoutComments]
    · rfl

/-- The base classes do not depend on comments. -/
lemma baseNames_withoutComments (arguments : Node) :
    c.baseNames arguments.withoutComments = c.baseNames arguments := by
  rw [baseNames, namedChildren_withoutComments, List.filterMap_map, List.filterMap_filter,
    baseNames]
  refine List.filterMap_congr fun argument _ => ?_
  by_cases hcomment : argument.isComment
  · simp [hcomment, bareName?_eq, isComment_iff.mp hcomment]
  · simp [hcomment, bareName?_withoutComments]

/-- The parameters do not depend on comments. -/
lemma positionalParameters_withoutComments {parameters : Node}
    (h : parameters.Everywhere OrderlyComments) :
    c.positionalParameters parameters.withoutComments = c.positionalParameters parameters := by
  have hcomments : c.gatherParameters [] (parameters.namedChildren.filter fun n => !n.isComment) =
      c.positionalParameters parameters := by
    refine c.gatherParameters_filter (fun n _ hn => ?_) []
    exact (HasForm.extra (Or.inl (isComment_iff.mp (by simpa using hn)))).eq
  rw [positionalParameters, namedChildren_withoutComments, ← hcomments]
  refine gatherParameters_congr (List.forall₂_map_right_iff.mpr (List.forall₂_same.mpr ?_))
  intro n hn
  exact c.parameterForm_withoutComments
    (h.of_mem_children (mem_children_of_mem_namedChildren (List.mem_filter.mp hn).1))

/-- A node without its comments has the same name. -/
lemma nameOf?_withoutComments {n : Node} (h : n.Everywhere OrderlyComments) :
    c.nameOf? n.withoutComments = c.nameOf? n := by
  rw [nameOf?, childByField?_withoutComments h, Option.map_map, nameOf?]
  congr 1
  funext name
  exact c.textOf_withoutComments name

/-- The unit of a function does not depend on comments. -/
lemma functionUnit?_withoutComments {p : Placed} (h : p.node.Everywhere OrderlyComments) :
    c.functionUnit? p.withoutComments = c.functionUnit? p := by
  have hparameters : (p.node.withoutComments.childByField? "parameters").map
      c.positionalParameters = (p.node.childByField? "parameters").map c.positionalParameters := by
    rw [childByField?_withoutComments h]
    cases hfound : p.node.childByField? "parameters" with
    | none => rfl
    | some parameters =>
      have hinside := h.of_mem_children (mem_children_of_childByField? hfound)
      simp [c.positionalParameters_withoutComments hinside]
  unfold functionUnit?
  rw [decoratorsOf_withoutComments]
  simp only [Placed.withoutComments, c.nameOf?_withoutComments h, hparameters,
    definitionSpan_withoutComments h]

/-- The unit of a class does not depend on comments. -/
lemma classUnit?_withoutComments {p : Placed} (h : p.node.Everywhere OrderlyComments) :
    c.classUnit? p.withoutComments = c.classUnit? p := by
  have hbases : (p.node.withoutComments.childByField? "superclasses").map c.baseNames =
      (p.node.childByField? "superclasses").map c.baseNames := by
    rw [childByField?_withoutComments h, Option.map_map]
    congr 1
    funext bases
    exact c.baseNames_withoutComments bases
  unfold classUnit?
  rw [decoratorsOf_withoutComments]
  simp only [Placed.withoutComments, c.nameOf?_withoutComments h, hbases,
    definitionSpan_withoutComments h]

/-- The units of an assignment do not depend on comments. -/
lemma variableUnits_withoutComments {statement : Node}
    (h : statement.Everywhere OrderlyComments) :
    c.variableUnits statement.withoutComments = c.variableUnits statement := by
  rw [variableUnits, chain_withoutComments h, List.filterMap_map, variableUnits]
  refine List.filterMap_congr fun link hlink => ?_
  have hleft := childByField?_withoutComments (h.of_within (within_of_mem_chain hlink)) "left"
  simp only [Function.comp_apply, linkUnit?, hleft]
  cases link.childByField? "left" with
  | none => simp only [Option.map_none, Option.bind_none]
  | some left =>
    rw [Option.map_some, Option.bind_some, nameTarget?_withoutComments, Option.map_map]
    refine Option.map_congr fun target _ => ?_
    rw [Function.comp_apply, textOf_withoutComments, assignmentSpan_withoutComments]

/-- A node without its comments is of the same class. -/
lemma classify_withoutComments {p : Placed} (h : p.node.Everywhere OrderlyComments) :
    classify p.withoutComments = classify p := by
  refine classify_congr (kind_withoutComments p.node) ?_ fun field => ?_
  · rw [Placed.withoutComments, Option.map_map]
    exact Option.map_congr fun parent _ => kind_withoutComments parent
  · rw [Placed.withoutComments, childByField?_withoutComments h, Option.isSome_map]

/-- **The units of a node do not depend on comments.** -/
lemma ownUnits_withoutComments {p : Placed} (h : p.node.Everywhere OrderlyComments) :
    c.ownUnits p.withoutComments = c.ownUnits p := by
  unfold ownUnits
  rw [classify_withoutComments h, functionUnit?_withoutComments c h,
    classUnit?_withoutComments c h]
  cases classify p with
  | assignment => exact c.variableUnits_withoutComments h
  | _ => rfl

/-- What gives nothing can be left out. -/
lemma flatMap_filter_of_eq_nil {α β : Type} {f : α → List β} {keep : α → Bool} {xs : List α}
    (h : ∀ x ∈ xs, ¬ keep x → f x = []) : (xs.filter keep).flatMap f = xs.flatMap f := by
  induction xs with
  | nil => rfl
  | cons x xs ih =>
    obtain ⟨hx, hxs⟩ := List.forall_mem_cons.mp h
    by_cases hkeep : keep x
    · simp [hkeep, ih hxs]
    · simp [hkeep, ih hxs, hx hkeep]

/-- A comment without children gives no units. -/
lemma unitsBelow_comment {p : Placed} (h : p.node.isComment) (hchildless : p.node.children = []) :
    c.unitsBelow p = [] := by
  have hnone : p.namedChildren = [] := by
    rw [Placed.namedChildren, Node.namedChildren, hchildless]
    rfl
  rw [unitsBelow, below_eq, hnone]
  simp [ownUnits, classify, isComment_iff.mp h]

/-- The named children of a node without comments are its named children that are no comments. -/
lemma namedChildren_placed_withoutComments (p : Placed) :
    p.withoutComments.namedChildren =
      (p.namedChildren.filter fun q => !q.node.isComment).map Placed.withoutComments := by
  simp only [Placed.namedChildren, Placed.withoutComments, namedChildren_withoutComments,
    List.filter_map, List.map_map, Function.comp_def, Option.map_some]

/-- **The units of a tree do not depend on comments.**

**Proof sketch.** Induction over the tree. The node gives the same units without comments
(`ownUnits_withoutComments`). Of its named children the comments are gone, but these gave no units
(`unitsBelow_comment`); the others give the same units by induction. -/
lemma unitsBelow_withoutComments {p : Placed} (h : p.node.Everywhere OrderlyComments) :
    c.unitsBelow p.withoutComments = c.unitsBelow p := by
  induction p using namedChildren_induction with
  | step p ih =>
    have hinside : ∀ q ∈ p.namedChildren, q.node.Everywhere OrderlyComments := by
      intro q hq
      obtain ⟨n, hn, rfl⟩ := List.mem_map.mp hq
      exact h.of_mem_children (mem_children_of_mem_namedChildren hn)
    have hcode : (p.namedChildren.filter fun q => !q.node.isComment).flatMap
        (fun q => c.unitsBelow q.withoutComments) =
          (p.namedChildren.filter fun q => !q.node.isComment).flatMap c.unitsBelow := by
      refine List.flatMap_congr fun q hq => ?_
      have hmem := (List.mem_filter.mp hq).1
      exact ih q hmem (hinside q hmem)
    have hcomments : (p.namedChildren.filter fun q => !q.node.isComment).flatMap c.unitsBelow =
        p.namedChildren.flatMap c.unitsBelow := by
      refine flatMap_filter_of_eq_nil fun q hq hcomment => ?_
      have hcomment : q.node.isComment := by simpa using hcomment
      exact c.unitsBelow_comment hcomment ((hinside q hq q.node .refl).childless hcomment)
    rw [unitsBelow, below_eq, unitsBelow, below_eq, ownUnits_withoutComments c h,
      namedChildren_placed_withoutComments, List.flatMap_map]
    exact congrArg (c.ownUnits p ++ ·) (hcode.trans hcomments)

end Context

/-! ## Units of a file -/

/-- **Comments do not matter**: if the comments of a tree have neither children nor roles and no
parameter with a type begins with one, then the units of the tree are the same, in all that they
have, whichever of its comments are dropped.

**Proof sketch.** Both trees give the units of the tree without any comments
(`Context.unitsBelow_withoutComments`), which is the same for both
(`withoutComments_dropComments`). -/
theorem extractUnits_dropComments (filePath source : String) (root : Node)
    (h : root.Everywhere OrderlyComments) (chosen : List Nat → Bool) :
    extractUnits filePath source (root.dropComments chosen) =
      extractUnits filePath source root := by
  let c := Context.ofFile filePath source
  have hwalk : ∀ n : Node, n.Everywhere OrderlyComments →
      extractUnits filePath source n = c.unitsBelow ⟨none, n.withoutComments⟩ := by
    intro n hn
    rw [extractUnits, Context.walk_eq_unitsBelow]
    exact (c.unitsBelow_withoutComments (p := ⟨none, n⟩) hn).symm
  rw [hwalk root h, hwalk _ (h.dropComments chosen), withoutComments_dropComments]

/-! ### A function with comments everywhere -/

/-- A comment. -/
def sampleComment : Node := sampleNode "comment" none []

/-- A decorated function with comments in its decorator, among and inside its parameters, and at
the end of its body. -/
def annotatedFile : Node :=
  sampleNode "module" none
    [sampleComment,
      sampleNode "decorated_definition" none
        [sampleNode "decorator" none [sampleComment, sampleNode "identifier" none []],
          sampleComment,
          sampleNode "function_definition" (some "definition")
            [sampleNode "identifier" (some "name") [],
              sampleNode "parameters" (some "parameters")
                [sampleComment, sampleNode "identifier" none [], sampleComment,
                  sampleNode "typed_parameter" none
                    [sampleNode "identifier" none [], sampleComment]],
              sampleNode "block" (some "body")
                [sampleNode "pass_statement" none [], sampleComment]]]]

/-- Six comments are dropped, all but the last, and the units stay the same. -/
theorem annotatedFile_dropComments :
    annotatedFile.Everywhere OrderlyComments ∧
      (annotatedFile.dropComments (· ≠ [1, 2, 2, 1])).size + 6 = annotatedFile.size ∧
      extractUnits "a.py" "class C" (annotatedFile.dropComments (· ≠ [1, 2, 2, 1])) =
        extractUnits "a.py" "class C" annotatedFile := by
  have h : annotatedFile.Everywhere OrderlyComments := by
    simp [annotatedFile, sampleComment, sampleNode, everywhere_mk, orderlyComments_iff,
      isComment, kind, Node.info, Node.children, Node.namedChildren]
  exact ⟨h, by decide, extractUnits_dropComments "a.py" "class C" annotatedFile h _⟩

end Extraction

end CodeCatalog
