import CodeCatalog.Proofs.Units.Chains
import CodeCatalog.Proofs.Units.Comments
import CodeCatalog.Proofs.Units.Endings
import CodeCatalog.Proofs.Units.Parameters
import CodeCatalog.Proofs.Units.Readers

/-!
# Units and line continuations

A backslash at the end of a line leaves a line continuation in the tree, anywhere between two
children of a node. Among parameters and among base classes it is passed over. In a decorator, and
in parentheses around a name, it hides the name if it stands in front of it, in parentheses around
a target also if it stands behind it. Then a decorator, a base class or a variable is missing.

## Main definitions

* `CodeCatalog.Signature` — what a unit is, without its place and its text.
* `CodeCatalog.Extraction.targetExpressions`, `decoratorExpressions`, `baseExpressions` — what is
  read for names at a node.
* `CodeCatalog.Extraction.HidesName` — a node at which a line continuation hides a name.

## Main results

* `CodeCatalog.Extraction.Context.positionalParameters_of_continues` — parameters do not depend on
  line continuations.
* `CodeCatalog.Extraction.Context.signatures_of_continued`, `not_hidesName_of_signatures_eq` — the
  units of a node do not depend on line continuations exactly if none hides a name there.
* `CodeCatalog.Extraction.extractUnits_dropContinuations_iff` — the same for the units of a file.
-/

namespace CodeCatalog

open Syntax Syntax.Node

/-- What a unit is, without its place and its text. -/
structure Signature where
  kind : UnitKind
  name : String
  decorators : List String
  parameters : Option (List String)
  baseTypes : Option (List String)
deriving Repr, DecidableEq

/-- What a unit is. -/
def CodeUnit.signature (u : CodeUnit) : Signature :=
  ⟨u.kind, u.name, u.decorators, u.parameters, u.baseTypes⟩

/-! ## Expressions of decorators -/

/-- A node as if it were parentheses. -/
def Syntax.Node.inParentheses (n : Node) : Node :=
  .mk { n.info with kind := "parenthesized_expression" } n.children

/-- The name of what is first in a node is the name of the node as parentheses. -/
lemma bareName?_inParentheses (source : List Char) (n : Node) :
    bareName? source n.inParentheses = (firstCodeChild? n).bind (bareName? source) := by
  rw [bareName?_eq]
  rfl

/-- What is left of a node is left of it as parentheses. -/
lemma Syntax.Node.Continues.inParentheses {cleared : Prop} {n m : Node}
    (h : Continues cleared n m) : Continues cleared n.inParentheses m.inParentheses := by
  obtain ⟨⟨chosen, rfl⟩, horderly, hleft⟩ := h
  have hextra : "parenthesized_expression" ≠ "line_continuation" := by decide
  have hparameter : "parenthesized_expression" ≠ "typed_parameter" := by decide
  refine ⟨⟨chosen, ?_⟩, ?_, ?_⟩
  · cases n
    rfl
  · exact everywhere_mk.mpr ⟨⟨fun hkind => absurd hkind hextra, fun hkind => absurd hkind hextra,
      fun hkind => absurd hkind hparameter⟩, fun c hc => horderly.of_mem_children hc⟩
  -- What is known of a node that is left concerns its children only, and these are the same.
  · exact everywhere_mk.mpr ⟨hleft (n.dropExtras _ chosen) .refl,
      fun c hc => hleft.of_mem_children hc⟩

/-! ## What is read for names -/

namespace Extraction

/-- The targets of an assignment statement. -/
def targetExpressions (statement : Node) : List Node :=
  (chain statement).filterMap (·.childByField? "left")

/-- The decorators of a definition, as parentheses around their expressions. -/
def decoratorExpressions (p : Placed) : List Node :=
  match p.parent with
  | none => []
  | some parent =>
    if parent.kind == "decorated_definition" then
      (parent.namedChildren.filter (·.kind == "decorator")).map inParentheses
    else []

/-- The base classes of a class. -/
def baseExpressions (definition : Node) : List Node :=
  match definition.childByField? "superclasses" with
  | none => []
  | some bases => bases.namedChildren.filter fun argument => !argument.isContinuation

/-- A node at which a line continuation hides the name of a variable, a decorator or a base
class. -/
inductive HidesName (p : Placed) : Prop
  | target {target : Node} (hrole : classify p = .assignment)
      (htarget : target ∈ targetExpressions p.node) (hstopped : targetReader.Obstructed target)
  | decorator {decorator : Node} (hrole : p.node.isDefinition)
      (hname : (p.node.childByField? "name").isSome)
      (hdecorator : decorator ∈ decoratorExpressions p)
      (hstopped : expressionReader.Obstructed decorator)
  | base {base : Node} (hrole : classify p = .classDef)
      (hname : (p.node.childByField? "name").isSome) (hbase : base ∈ baseExpressions p.node)
      (hstopped : expressionReader.Obstructed base)

/-- No name is hidden at a line continuation itself. -/
lemma HidesName.not_isContinuation {p : Placed} (h : HidesName p) : ¬ p.node.isContinuation := by
  intro hcontinuation
  have hkind := isContinuation_iff.mp hcontinuation
  cases h with
  | target hrole _ _ => simp [classify, hkind] at hrole
  | decorator hrole _ _ _ => simp [isDefinition, hkind] at hrole
  | base hrole _ _ _ => simp [classify, hkind] at hrole

namespace Context

variable (c : Context)

/-- The positional parameters of a definition. -/
def definitionParameters (definition : Node) : List String :=
  ((definition.childByField? "parameters").map c.positionalParameters).getD []

/-- The decorators of a definition are the names of their expressions. -/
lemma decoratorsOf_eq (p : Placed) :
    c.decoratorsOf p = (decoratorExpressions p).filterMap (bareName? c.source) := by
  unfold decoratorsOf decoratorExpressions
  cases p.parent with
  | none => rfl
  | some parent =>
    simp only
    split
    · rw [List.filterMap_map]
      exact List.filterMap_congr fun d _ => (bareName?_inParentheses c.source d).symm
    · rfl

/-- The base classes of a class are the names of their expressions. -/
lemma baseNames_eq (definition : Node) :
    ((definition.childByField? "superclasses").map c.baseNames).getD [] =
      (baseExpressions definition).filterMap (bareName? c.source) := by
  unfold baseExpressions
  cases definition.childByField? "superclasses" with
  | none => rfl
  | some bases =>
    rw [Option.map_some, Option.getD_some, baseNames, List.filterMap_filter]
    refine List.filterMap_congr fun argument _ => ?_
    by_cases hcontinuation : argument.isContinuation
    · simp [hcontinuation, bareName?_eq, isContinuation_iff.mp hcontinuation]
    · simp [hcontinuation]

/-- What a function gives. -/
lemma signatures_function {p : Placed} (hrole : classify p = .function) :
    (c.ownUnits p).map CodeUnit.signature = (c.nameOf? p.node).toList.map fun name =>
      { kind := .function, name
        decorators := (decoratorExpressions p).filterMap (bareName? c.source)
        parameters := some (c.definitionParameters p.node)
        baseTypes := none } := by
  rw [ownUnits, hrole, functionUnit?, ← decoratorsOf_eq]
  cases c.nameOf? p.node <;> rfl

/-- What a class gives. -/
lemma signatures_classDef {p : Placed} (hrole : classify p = .classDef) :
    (c.ownUnits p).map CodeUnit.signature = (c.nameOf? p.node).toList.map fun name =>
      { kind := .classDef, name
        decorators := (decoratorExpressions p).filterMap (bareName? c.source)
        parameters := none
        baseTypes := some ((baseExpressions p.node).filterMap (bareName? c.source)) } := by
  rw [ownUnits, hrole, classUnit?, ← decoratorsOf_eq, ← baseNames_eq]
  cases c.nameOf? p.node <;> rfl

/-- What a variable with a name is. -/
def variableSignature (name : String) : Signature := ⟨.variable, name, [], none, none⟩

/-- What an assignment gives: variables with the names of its targets. -/
lemma signatures_assignment {p : Placed} (hrole : classify p = .assignment) :
    (c.ownUnits p).map CodeUnit.signature = ((targetExpressions p.node).filterMap fun target =>
      (nameTarget? target).map (·.text c.source)).map variableSignature := by
  simp only [ownUnits, hrole]
  rw [variableUnits_eq_map, List.map_map, nameTargets, targetExpressions, List.map_filterMap,
    List.filterMap_filterMap, List.map_filterMap]
  refine List.filterMap_congr fun link _ => ?_
  rw [Option.map_bind, Option.map_bind]
  congr 1
  funext target
  rw [Function.comp_apply, Function.comp_apply, Option.map_map]
  rfl

end Context

/-! ## What is left of them -/

/-- A placed node, and what is left of it and of the node above it without some line
continuations. -/
structure Continued (cleared : Prop) (p q : Placed) : Prop where
  parent : Option.Rel (Continues cleared) p.parent q.parent
  node : Continues cleared p.node q.node

section Continued

variable {cleared : Prop} {p q : Placed} {n m : Node}

/-- The links of a chain are left. -/
lemma forall₂_chain_of_continues (h : Continues cleared n m) :
    List.Forall₂ (Continues cleared) (chain n) (chain m) :=
  forall₂_chain (fun _ _ hlink =>
    nextLink?_rel (fun _ _ hright => hright.kind_eq) (hlink.childByField? "right")) h

/-- The targets of a statement are left. -/
lemma forall₂_targetExpressions (h : Continues cleared n m) :
    List.Forall₂ (Continues cleared) (targetExpressions n) (targetExpressions m) :=
  List.rel_filterMap (fun _ _ hlink => hlink.childByField? "left") (forall₂_chain_of_continues h)

/-- The decorators of a definition are left. -/
lemma forall₂_decoratorExpressions (h : Continued cleared p q) :
    List.Forall₂ (Continues cleared) (decoratorExpressions p) (decoratorExpressions q) := by
  unfold decoratorExpressions
  rcases rel_cases h.parent with ⟨hp, hq⟩ | ⟨parent, left, hp, hq, hparent⟩
  · rw [hp, hq]
    exact .nil
  · rw [hp, hq]
    simp only [hparent.kind_eq]
    split
    · rw [List.forall₂_map_left_iff, List.forall₂_map_right_iff]
      exact (hparent.forall₂_namedChildren (· == "decorator") rfl).imp fun _ _ h => h.inParentheses
    · exact .nil

/-- The base classes of a class are left. -/
lemma forall₂_baseExpressions (h : Continues cleared n m) :
    List.Forall₂ (Continues cleared) (baseExpressions n) (baseExpressions m) := by
  unfold baseExpressions
  rcases rel_cases (h.childByField? "superclasses") with ⟨hn, hm⟩ | ⟨bases, left, hn, hm, hbases⟩
  · rw [hn, hm]
    exact .nil
  · rw [hn, hm]
    exact Continues.forall₂_namedChildren hbases (!· == "line_continuation") rfl

/-- The role of a node does not depend on line continuations. -/
lemma classify_of_continued (h : Continued cleared p q) : classify q = classify p := by
  refine classify_congr h.node.kind_eq ?_ fun field => ?_
  · rcases rel_cases h.parent with ⟨hp, hq⟩ | ⟨parent, left, hp, hq, hparent⟩
    · rw [hp, hq]
    · rw [hp, hq, Option.map_some, Option.map_some, hparent.kind_eq]
  · rcases rel_cases (h.node.childByField? field) with ⟨hp, hq⟩ | ⟨a, b, hp, hq, -⟩
    · rw [hp, hq]
    · rw [hp, hq, Option.isSome_some, Option.isSome_some]

/-- The name of a definition does not depend on line continuations. -/
lemma Context.nameOf?_of_continues (c : Context) (h : Continues cleared n m) :
    c.nameOf? m = c.nameOf? n := by
  unfold nameOf?
  rcases rel_cases (h.childByField? "name") with ⟨hn, hm⟩ | ⟨a, b, hn, hm, hname⟩
  · rw [hn, hm]
  · rw [hn, hm]
    exact congrArg some (hname.text_eq c.source)

/-! ## Parameters -/

/-- A parameter is left in its form. -/
lemma Context.parameterForm_of_continues (c : Context) (h : Continues cleared n m) :
    c.parameterForm m = c.parameterForm n := by
  have hwords {x y : Option Node} (h : Option.Rel (Continues cleared) x y) :
      Option.Rel (c.SameWord c) x y := by
    cases h with
    | none => exact .none
    | some hleft => exact .some ⟨hleft.kind_eq, fun _ => hleft.text_eq c.source⟩
  exact parameterForm_congr ⟨h.kind_eq, fun _ => h.text_eq c.source⟩
    (fun htyped => hwords (h.namedChildren.head? ((h.orderly n .refl).parameter htyped)))
    (fun _ => hwords (h.childByField? "name"))

/-- **The parameters of a function do not depend on line continuations.** -/
lemma Context.positionalParameters_of_continues (c : Context) (h : Continues cleared n m) :
    c.positionalParameters m = c.positionalParameters n := by
  have hextra (n : Node) : c.gatherParameters [] (n.namedChildren.filter fun p =>
      !(p.kind == "line_continuation")) = c.positionalParameters n := by
    refine c.gatherParameters_filter (fun p _ hp => ?_) []
    exact (HasForm.extra (Or.inr (by simpa using hp))).eq
  rw [← hextra m, ← hextra n]
  exact gatherParameters_congr
    ((h.forall₂_namedChildren (!· == "line_continuation") rfl).imp fun _ _ hleft =>
      c.parameterForm_of_continues hleft)

/-- The parameters of a definition do not depend on line continuations. -/
lemma Context.definitionParameters_of_continues (c : Context) (h : Continues cleared n m) :
    c.definitionParameters m = c.definitionParameters n := by
  unfold definitionParameters
  rcases rel_cases (h.childByField? "parameters") with ⟨hn, hm⟩ | ⟨a, b, hn, hm, hab⟩
  · rw [hn, hm]
  · rw [hn, hm, Option.map_some, Option.map_some, c.positionalParameters_of_continues hab]

/-! ## Units of a node -/

namespace Context

variable (c : Context)

/-- The units of a node are no fewer without some line continuations. -/
lemma length_ownUnits_le (h : Continued cleared p q) :
    (c.ownUnits p).length ≤ (c.ownUnits q).length := by
  have hroles := classify_of_continued h
  suffices hlength : ((c.ownUnits p).map CodeUnit.signature).length ≤
      ((c.ownUnits q).map CodeUnit.signature).length by simpa using hlength
  cases hrole : classify p with
  | function =>
    rw [c.signatures_function hrole, c.signatures_function (hroles.trans hrole),
      c.nameOf?_of_continues h.node, List.length_map, List.length_map]
  | classDef =>
    rw [c.signatures_classDef hrole, c.signatures_classDef (hroles.trans hrole),
      c.nameOf?_of_continues h.node, List.length_map, List.length_map]
  | assignment =>
    rw [c.signatures_assignment hrole, c.signatures_assignment (hroles.trans hrole),
      List.length_map, List.length_map]
    exact (targetReader_reads c.source).length_filterMap_le (forall₂_targetExpressions h.node)
  | other => simp [ownUnits, hrole]

/-- **Line continuations that hide no name do not matter** for what the units of a node are. -/
lemma signatures_of_continued (h : Continued cleared p q) (hfree : ¬ HidesName p) :
    (c.ownUnits q).map CodeUnit.signature = (c.ownUnits p).map CodeUnit.signature := by
  have hroles := classify_of_continued h
  have hname (name : String) (hname : c.nameOf? p.node = some name) :
      (p.node.childByField? "name").isSome := by
    rw [← Option.isSome_map (f := c.textOf)]
    exact Option.isSome_of_eq_some hname
  have hdecorators (hdefinition : p.node.isDefinition)
      (hname : (p.node.childByField? "name").isSome) :=
    (expressionReader_reads c.source).filterMap_eq (forall₂_decoratorExpressions h)
      fun _ hd hstopped => hfree (.decorator hdefinition hname hd hstopped)
  cases hrole : classify p with
  | function =>
    have hdefinition := isDefinition_of_classify (Or.inl hrole)
    rw [c.signatures_function hrole, c.signatures_function (hroles.trans hrole),
      c.nameOf?_of_continues h.node, c.definitionParameters_of_continues h.node]
    cases hnamed : c.nameOf? p.node with
    | none => rfl
    | some name => rw [hdecorators hdefinition (hname name hnamed)]
  | classDef =>
    have hdefinition := isDefinition_of_classify (Or.inr hrole)
    rw [c.signatures_classDef hrole, c.signatures_classDef (hroles.trans hrole),
      c.nameOf?_of_continues h.node]
    cases hnamed : c.nameOf? p.node with
    | none => rfl
    | some name =>
      have hbases := (expressionReader_reads c.source).filterMap_eq (forall₂_baseExpressions h.node)
        fun _ hbase hstopped => hfree (.base hrole (hname name hnamed) hbase hstopped)
      rw [hdecorators hdefinition (hname name hnamed), hbases]
  | assignment =>
    rw [c.signatures_assignment hrole, c.signatures_assignment (hroles.trans hrole)]
    exact congrArg _ ((targetReader_reads c.source).filterMap_eq (forall₂_targetExpressions h.node)
      fun _ htarget hstopped => hfree (.target hrole htarget hstopped))
  | other => simp [ownUnits, hroles, hrole]

/-- **If line continuations do not matter** for what the units of a node are, they hide no name. -/
lemma not_hidesName_of_signatures_eq (h : Continued True p q)
    (heq : (c.ownUnits q).map CodeUnit.signature = (c.ownUnits p).map CodeUnit.signature) :
    ¬ HidesName p := by
  have hroles := classify_of_continued h
  have hnames := c.nameOf?_of_continues h.node
  have hnamed (hname : (p.node.childByField? "name").isSome) :
      ∃ name, c.nameOf? p.node = some name := by
    rwa [← Option.isSome_iff_exists, nameOf?, Option.isSome_map]
  rintro (⟨hrole, htarget, hstopped⟩ | ⟨hdefinition, hname, hdecorator, hstopped⟩ |
    ⟨hrole, hname, hbase, hstopped⟩)
  · rw [c.signatures_assignment hrole, c.signatures_assignment (hroles.trans hrole)] at heq
    have hinjective : Function.Injective variableSignature := fun _ _ h => congrArg (·.name) h
    exact (targetReader_reads c.source).not_obstructed (forall₂_targetExpressions h.node)
      (List.map_injective_iff.mpr hinjective heq) _ htarget hstopped
  · obtain ⟨name, hname⟩ := hnamed hname
    have hdecorators : (decoratorExpressions q).filterMap (bareName? c.source) =
        (decoratorExpressions p).filterMap (bareName? c.source) := by
      rcases classify_of_isDefinition hdefinition with hrole | hrole
      · rw [c.signatures_function hrole, c.signatures_function (hroles.trans hrole), hnames,
          hname] at heq
        exact congrArg Signature.decorators (List.head_eq_of_cons_eq heq)
      · rw [c.signatures_classDef hrole, c.signatures_classDef (hroles.trans hrole), hnames,
          hname] at heq
        exact congrArg Signature.decorators (List.head_eq_of_cons_eq heq)
    exact (expressionReader_reads c.source).not_obstructed (forall₂_decoratorExpressions h)
      hdecorators _ hdecorator hstopped
  · obtain ⟨name, hname⟩ := hnamed hname
    rw [c.signatures_classDef hrole, c.signatures_classDef (hroles.trans hrole), hnames,
      hname] at heq
    have hbases := congrArg Signature.baseTypes (List.head_eq_of_cons_eq heq)
    exact (expressionReader_reads c.source).not_obstructed (forall₂_baseExpressions h.node)
      (Option.some.inj hbases) _ hbase hstopped

end Context

/-! ## Units of a file -/

/-- What is visited, without line continuations. -/
def codeVisits (p : Placed) : List Placed := (visits p).filter fun q => !q.node.isContinuation

/-- The visits of a tree are its root, unless this is a line continuation, and those of its named
children. -/
lemma codeVisits_eq (p : Placed) :
    codeVisits p = [p].filter (fun q => !q.node.isContinuation) ++
      p.namedChildren.flatMap codeVisits := by
  rw [codeVisits, visits_eq, ← List.singleton_append, List.filter_append, List.filter_flatMap]
  rfl

/-- Nothing is visited from a line continuation without children. -/
lemma codeVisits_of_isContinuation {p : Placed} (h : p.node.isContinuation)
    (hchildless : p.node.children = []) : codeVisits p = [] := by
  have hnone : p.namedChildren = [] := by
    rw [Placed.namedChildren, Node.namedChildren, hchildless]
    rfl
  rw [codeVisits_eq, hnone]
  simp [h]

/-- **What is visited is left.**

**Proof sketch.** Induction over the tree. Of the named children that are dropped nothing is
visited (`codeVisits_of_isContinuation`), from the others on the visits correspond by induction. -/
lemma forall₂_codeVisits (h : Continued cleared p q) :
    List.Forall₂ (Continued cleared) (codeVisits p) (codeVisits q) := by
  induction p using namedChildren_induction generalizing q with
  | step p ih =>
    -- Induction on what is left of the children, for any sublist of them.
    have hchildren : ∀ {ns ms : List Node}, (∀ n ∈ ns, n ∈ p.node.namedChildren) →
        Thins "line_continuation" (Continues cleared) ns ms →
          List.Forall₂ (Continued cleared) ((ns.map (⟨some p.node, ·⟩)).flatMap codeVisits)
            ((ms.map (⟨some q.node, ·⟩)).flatMap codeVisits) := by
      intro ns ms hmem hthins
      induction hthins with
      | nil => exact .nil
      | @dropped n ns ms hkind _ ihRest =>
        obtain ⟨hn, hns⟩ := List.forall_mem_cons.mp hmem
        have hchildless := ((h.node.orderly.of_mem_children (List.mem_filter.mp hn).1) n
          .refl).childless hkind
        rw [List.map_cons, List.flatMap_cons,
          codeVisits_of_isContinuation (isContinuation_iff.mpr hkind) hchildless]
        exact ihRest hns
      | @kept n m ns ms hleft _ ihRest =>
        obtain ⟨hn, hns⟩ := List.forall_mem_cons.mp hmem
        rw [List.map_cons, List.flatMap_cons, List.map_cons, List.flatMap_cons]
        exact List.rel_append (ih ⟨some p.node, n⟩ (List.mem_map_of_mem hn) ⟨.some h.node, hleft⟩)
          (ihRest hns)
    rw [codeVisits_eq p, codeVisits_eq q]
    refine List.rel_append ?_ (hchildren (fun _ hn => hn) h.node.namedChildren)
    rw [List.filter_singleton, List.filter_singleton, h.node.isContinuation_eq]
    cases !p.node.isContinuation with
    | true => exact .cons h .nil
    | false => exact .nil

end Continued

/-- The units of a file are those of what is visited. -/
lemma extractUnits_eq_flatMap_codeVisits (filePath source : String) (root : Node) :
    extractUnits filePath source root =
      (codeVisits ⟨none, root⟩).flatMap (Context.ofFile filePath source).ownUnits := by
  rw [extractUnits, Context.walk_eq_flatMap_visits, codeVisits]
  refine (Context.flatMap_filter_of_eq_nil fun p _ hp => ?_).symm
  have hkind := isContinuation_iff.mp (by simpa using hp)
  simp [Context.ownUnits, classify, hkind]

/-- **When line continuations do not matter**: over every tree whose line continuations have
neither children nor roles, where no parameter with a type begins with one, what the units of a
file are, their kinds, names, decorators, parameters and base classes, is the same whichever line
continuations are dropped, if and only if none of them hides a name at a visited node.

**Proof sketch.** What is visited without some line continuations is what is left of what is
visited with them (`forall₂_codeVisits`). If none hides a name, each node gives the same
(`Context.signatures_of_continued`). For the other direction all are dropped: each node then gives
as many units or more (`Context.length_ownUnits_le`), so if all together give the same, then each
one does, and hides no name (`Context.not_hidesName_of_signatures_eq`). -/
theorem extractUnits_dropContinuations_iff (filePath source : String) (root : Node)
    (h : root.Everywhere (OrderlyExtras "line_continuation")) :
    (∀ chosen, (extractUnits filePath source (root.dropExtras "line_continuation" chosen)).map
        CodeUnit.signature = (extractUnits filePath source root).map CodeUnit.signature) ↔
      ∀ p ∈ visits ⟨none, root⟩, ¬ HidesName p := by
  let c := Context.ofFile filePath source
  have hunits (n : Node) : (extractUnits filePath source n).map CodeUnit.signature =
      (codeVisits ⟨none, n⟩).flatMap fun p => (c.ownUnits p).map CodeUnit.signature := by
    rw [extractUnits_eq_flatMap_codeVisits, List.map_flatMap]
  simp only [hunits]
  constructor
  · intro hsame p hp hhides
    have hcleared : Continued True ⟨none, root⟩
        ⟨none, root.dropExtras "line_continuation" fun _ => true⟩ :=
      ⟨.none, sheds_dropExtras _ h fun d hd _ => everywhere_dropExtras _ root d hd⟩
    have hcode : p ∈ codeVisits ⟨none, root⟩ :=
      List.mem_filter.mpr ⟨hp, by simpa using hhides.not_isContinuation⟩
    obtain ⟨q, hpq, heq⟩ := exists_eq_of_flatMap_eq (forall₂_codeVisits hcleared)
      (fun p q hpq => by simpa using c.length_ownUnits_le hpq) (hsame _) hcode
    exact c.not_hidesName_of_signatures_eq hpq heq hhides
  · intro hfree chosen
    have hleft : Continued False ⟨none, root⟩ ⟨none, root.dropExtras "line_continuation" chosen⟩ :=
      ⟨.none, sheds_dropExtras _ h fun _ _ => False.elim⟩
    exact flatMap_eq_of_forall₂ (forall₂_codeVisits hleft) fun p hp q hpq =>
      c.signatures_of_continued hpq (hfree p (List.mem_filter.mp hp).1)

/-! ### A target behind a line continuation -/

/-- A line continuation. -/
def sampleContinuation : Node := sampleNode "line_continuation" none []

/-- A target in parentheses, behind a line continuation. -/
def continuedTarget : Node :=
  sampleNode "tuple_pattern" (some "left") [sampleContinuation, sampleNode "identifier" none []]

/-- An assignment to the target. -/
def continuedAssignment : Node :=
  sampleNode "assignment" none [continuedTarget, sampleNode "integer" (some "right") []]

/-- A statement with the assignment. -/
def continuedStatement : Node := sampleNode "expression_statement" none [continuedAssignment]

/-- A file with the statement. -/
def continuedFile : Node := sampleNode "module" none [continuedStatement]

/-- The line continuation hides the target, so it matters whether it is dropped. -/
theorem continuedFile_dropContinuations :
    continuedFile.Everywhere (OrderlyExtras "line_continuation") ∧
      ∃ chosen, (extractUnits "a.py" "class C"
          (continuedFile.dropExtras "line_continuation" chosen)).map CodeUnit.signature ≠
        (extractUnits "a.py" "class C" continuedFile).map CodeUnit.signature := by
  have h : continuedFile.Everywhere (OrderlyExtras "line_continuation") := by
    simp [continuedFile, continuedStatement, continuedAssignment, continuedTarget,
      sampleContinuation, sampleNode, everywhere_mk, orderlyExtras_iff, kind, Node.info,
      Node.children, Node.namedChildren]
  refine ⟨h, by_contra fun hnone => ?_⟩
  have hvisited : (⟨some continuedStatement, continuedAssignment⟩ : Placed) ∈
      visits ⟨none, continuedFile⟩ := by
    simp [visits_eq, Placed.namedChildren, Node.namedChildren, Node.children, Node.info,
      continuedFile, continuedStatement, continuedAssignment, continuedTarget, sampleContinuation,
      sampleNode]
  have htarget : continuedTarget ∈ targetExpressions continuedAssignment := by
    have hlast : nextLink? continuedAssignment = none := rfl
    rw [targetExpressions, chain_eq, hlast]
    exact List.mem_singleton_self _
  have hstopped : targetReader.Obstructed continuedTarget :=
    ⟨[continuedTarget], _, .inside rfl rfl (.name rfl), continuedTarget, List.mem_singleton_self _,
      sampleContinuation, List.mem_cons_self, rfl⟩
  exact (extractUnits_dropContinuations_iff "a.py" "class C" continuedFile h).mp
    (fun chosen => by_contra fun hne => hnone ⟨chosen, hne⟩) _ hvisited
    (.target rfl htarget hstopped)

end Extraction

end CodeCatalog
