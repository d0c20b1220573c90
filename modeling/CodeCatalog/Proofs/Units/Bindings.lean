import Mathlib.Data.List.Nodup
import CodeCatalog.Proofs.Units.Chains

/-!
# Where names are bound

The walk visits the inner links of a chain of assignments as ordinary nodes, after the first link
has given the units of the whole chain. An inner link stands below an assignment, so it is no
statement and gives nothing again: no node of a file is bound twice.

## Main definitions

* `CodeCatalog.Extraction.namePosition?` — the position of the name in a target.
* `CodeCatalog.Extraction.boundPositions` — the positions of the names that a chain binds.
* `CodeCatalog.Extraction.bindings` — the same for all statements of a file.
* `CodeCatalog.Extraction.Context.IsVariable` — the unit of a target of a statement.

## Main results

* `CodeCatalog.Extraction.parent_of_mem_boundPositions` — an assignment on the way to a name that
  a chain binds is the first link or stands below a link.
* `CodeCatalog.Extraction.nodup_bindings` — no node is bound twice.
* `CodeCatalog.Extraction.extractUnits_bindings` — the variables of a file are its bindings.
-/

namespace CodeCatalog

open Syntax

/-! ## Positions one behind the other -/

section Positions

variable (p : Placed) (front back : List Nat)

/-- A way in two parts is gone part by part. -/
lemma Placed.at?_append : p.at? (front ++ back) = (p.at? front).bind (·.at? back) := by
  induction front generalizing p with
  | nil => rfl
  | cons i front ih =>
    rw [List.cons_append, Placed.at?, Placed.at?]
    cases p.node.children[i]? with
    | none => rfl
    | some child => exact ih _

/-- A way through named nodes in two parts is gone part by part. -/
lemma Placed.namedAt?_append :
    p.namedAt? (front ++ back) = (p.namedAt? front).bind (·.namedAt? back) := by
  induction front generalizing p with
  | nil => rfl
  | cons i front ih =>
    rw [List.cons_append, Placed.namedAt?, Placed.namedAt?]
    cases p.node.children[i]? with
    | none => rfl
    | some child =>
      by_cases hnamed : child.info.named
      · simp only [hnamed, if_true, ih]
      · simp [hnamed]

end Positions

/-- The child that a search finds stands at the number that the same search gives. -/
lemma getElem?_findIdx {α : Type} {P : α → Bool} {xs : List α} {x : α}
    (h : xs.find? P = some x) : xs[xs.findIdx P]? = some x := by
  induction xs with
  | nil => cases h
  | cons y ys ih =>
    by_cases hy : P y
    · simpa [List.findIdx_cons, hy] using h
    · simpa [List.findIdx_cons, hy] using ih (by simpa [hy] using h)

namespace Syntax.Node

/-- The number of the first child with a role. -/
def fieldIndex (n : Node) (field : String) : Nat :=
  n.children.findIdx (·.info.field == some field)

/-- The number of the first named child that is no comment. -/
def codeIndex (n : Node) : Nat := n.children.findIdx fun c => c.info.named && !c.isComment

/-- The child of a field stands at the index of the field. -/
lemma getElem?_fieldIndex {n c : Node} {field : String} (h : n.childByField? field = some c) :
    n.children[n.fieldIndex field]? = some c :=
  getElem?_findIdx h

/-- What is alone in parentheses is the first named child that is no comment. -/
lemma getElem?_codeIndex {n c : Node} (h : onlyInside? n = some c) :
    n.children[n.codeIndex]? = some c := by
  have hfound : n.children.find? (fun c => c.info.named && !c.isComment) = some c := by
    have hfilter : n.namedChildren.filter (fun c => !c.isComment) =
        n.children.filter fun c => c.info.named && !c.isComment := by
      rw [namedChildren, List.filter_filter]
      simp only [Bool.and_comm]
    rw [← List.head?_filter, ← hfilter, (onlyInside?_eq_some_iff.mp h).2, List.head?_cons]
  exact getElem?_findIdx hfound

/-- Children with different roles have different numbers. -/
lemma fieldIndex_ne {n c d : Node} {f g : String} (hc : n.childByField? f = some c)
    (hd : n.childByField? g = some d) (hne : f ≠ g) : n.fieldIndex f ≠ n.fieldIndex g := by
  intro heq
  have hcAt := getElem?_fieldIndex hc
  rw [heq, getElem?_fieldIndex hd] at hcAt
  obtain rfl : d = c := Option.some.inj hcAt
  have hf := field_of_childByField? hc
  exact hne (Option.some.inj (hf.symm.trans (field_of_childByField? hd)))

end Syntax.Node

namespace Extraction

/-! ## The positions of targets -/

/-- The position of the name that an assignment target binds, seen from the target. -/
def namePosition? (target : Node) : Option (List Nat) :=
  if target.kind == "identifier" then some []
  else if target.kind == "tuple_pattern" || target.kind == "parenthesized_expression" then
    match _h : onlyInside? target with
    | some inner => (namePosition? inner).map (target.codeIndex :: ·)
    | none => none
  else none
termination_by target.size
decreasing_by exact Node.size_lt_of_mem_children (mem_children_of_onlyInside? _h)

/-- The position of the name that a link binds, seen from the link. -/
def linkPosition? (link : Node) : Option (List Nat) :=
  ((link.childByField? "left").bind namePosition?).map (link.fieldIndex "left" :: ·)

/-- The positions of the names that a chain binds, seen from its first link. -/
def boundPositions (link : Node) : List (List Nat) :=
  match _h : nextLink? link with
  | some next =>
    (linkPosition? link).toList ++ (boundPositions next).map (link.fieldIndex "right" :: ·)
  | none => (linkPosition? link).toList
termination_by link.size
decreasing_by exact Node.size_lt_of_mem_children (mem_children_of_nextLink? _h)

/-- Whether an identifier stands at a position. -/
structure NameAt (p : Placed) (pos : List Nat) (name : Node) : Prop where
  identifier : name.kind = "identifier"
  stands : (p.at? pos).map (·.node) = some name

/-- A name below a child is a name below the node, at a place one step longer. -/
lemma NameAt.cons {p : Placed} {i : Nat} {c name : Node} {pos : List Nat}
    (hc : p.node.children[i]? = some c) (h : NameAt ⟨some p.node, c⟩ pos name) :
    NameAt p (i :: pos) name :=
  ⟨h.identifier, by rw [Placed.at?, hc]; exact h.stands⟩

/-- A target that binds a name has it at its position. -/
lemma namePosition?_rel (parent : Option Node) (target : Node) :
    Option.Rel (NameAt ⟨parent, target⟩) (namePosition? target) (nameTarget? target) := by
  fun_induction namePosition? target generalizing parent with
  | case1 target hkind =>
    rw [nameTarget?_eq, if_pos hkind]
    exact .some ⟨by simpa using hkind, rfl⟩
  | case2 target hname hkind inner hinner ih =>
    rw [nameTarget?_eq, if_neg hname, if_pos hkind, hinner, Option.bind_some]
    have hrel := ih (some target)
    generalize namePosition? inner = pos, nameTarget? inner = name at hrel ⊢
    cases hrel with
    | none => exact .none
    | some hat => exact .some (hat.cons (Node.getElem?_codeIndex hinner))
  | case3 target hname hkind hnone =>
    rw [nameTarget?_eq, if_neg hname, if_pos hkind, hnone]
    exact .none
  | case4 target hname hkind =>
    rw [nameTarget?_eq, if_neg hname, if_neg hkind]
    exact .none

/-- A link that binds a name has it at its position. -/
lemma linkPosition?_rel (parent : Option Node) (link : Node) :
    Option.Rel (NameAt ⟨parent, link⟩) (linkPosition? link) (linkTarget? link) := by
  unfold linkPosition? linkTarget?
  cases hleft : link.childByField? "left" with
  | none => exact .none
  | some left =>
    have hrel := namePosition?_rel (some link) left
    simp only [Option.bind_some]
    generalize namePosition? left = pos, nameTarget? left = name at hrel ⊢
    cases hrel with
    | none => exact .none
    | some hat => exact .some (hat.cons (Node.getElem?_fieldIndex hleft))

/-- The names that a chain binds are those of its first link and of the chain behind it. -/
lemma nameTargets_eq (link : Node) :
    nameTargets link =
      (linkTarget? link).toList ++ ((nextLink? link).map nameTargets).getD [] := by
  have hchain (link : Node) : nameTargets link = (chain link).filterMap linkTarget? := rfl
  rw [hchain, chain_eq]
  cases hname : linkTarget? link with
  | none => cases nextLink? link <;> simp [hname, hchain]
  | some name => cases nextLink? link <;> simp [hname, hchain]

/-- The names that a chain binds stand at its positions, one by one. -/
lemma forall₂_boundPositions (parent : Option Node) (link : Node) :
    List.Forall₂ (NameAt ⟨parent, link⟩) (boundPositions link) (nameTargets link) := by
  have hown (parent : Option Node) (link : Node) : List.Forall₂ (NameAt ⟨parent, link⟩)
      (linkPosition? link).toList (linkTarget? link).toList := by
    have hrel := linkPosition?_rel parent link
    generalize linkPosition? link = pos, linkTarget? link = name at hrel ⊢
    cases hrel with
    | none => exact .nil
    | some hat => exact .cons hat .nil
  fun_induction boundPositions link generalizing parent with
  | case1 link next hnext ih =>
    rw [nameTargets_eq, hnext]
    refine List.rel_append (hown parent link) (List.forall₂_map_left_iff.mpr ?_)
    have hright := (nextLink?_eq_some_iff.mp hnext).1
    exact (ih (some link)).imp fun _ _ hat =>
      hat.cons (Node.getElem?_fieldIndex hright)
  | case2 link hnone =>
    rw [nameTargets_eq, hnone]
    simpa using hown parent link

/-! ## No node is bound twice -/

/-- Positions that a chain binds are related from left to right, if positions below the same child
are related like those below the node, and those below the target to those below the value. -/
lemma pairwise_boundPositions {R : List Nat → List Nat → Prop} {link : Node}
    (hbelow : ∀ i a b, R a b → R (i :: a) (i :: b))
    (hlinks : ∀ l ∈ chain link, ∀ left, l.childByField? "left" = some left →
      ∀ next, nextLink? l = some next →
        ∀ a b, R (l.fieldIndex "left" :: a) (l.fieldIndex "right" :: b)) :
    (boundPositions link).Pairwise R := by
  have hone (pos : Option (List Nat)) : pos.toList.Pairwise R := by cases pos <;> simp
  fun_induction boundPositions link with
  | case1 link next hnext ih =>
    rw [chain_eq, hnext] at hlinks
    obtain ⟨hlink, hrest⟩ := List.forall_mem_cons.mp hlinks
    refine List.pairwise_append.mpr ⟨hone _, List.pairwise_map.mpr ?_, fun a ha b hb => ?_⟩
    · exact (ih hrest).imp fun h => hbelow _ _ _ h
    · obtain ⟨inLeft, hinLeft, rfl⟩ := Option.map_eq_some_iff.mp (Option.mem_toList.mp ha)
      obtain ⟨inRight, -, rfl⟩ := List.mem_map.mp hb
      obtain ⟨left, hleft, -⟩ := Option.bind_eq_some_iff.mp hinLeft
      exact hlink left hleft next hnext inLeft inRight
  | case2 link hnone => exact hone _

/-- No position is bound twice by a chain. -/
lemma nodup_boundPositions (link : Node) : (boundPositions link).Nodup := by
  refine pairwise_boundPositions (fun i a b hne heq => hne (List.cons.inj heq).2) ?_
  intro l _ left hleft next hnext a b heq
  have hright := (nextLink?_eq_some_iff.mp hnext).1
  exact Node.fieldIndex_ne hleft hright (by decide) (List.cons.inj heq).1

/-- Between an assignment target and its name there are only parentheses. -/
lemma kind_ne_of_namePosition? {parent : Option Node} {target : Node} {front back : List Nat}
    (hpos : namePosition? target = some (front ++ back)) {q : Placed}
    (hq : (Placed.mk parent target).at? front = some q) : q.node.kind ≠ "assignment" := by
  fun_induction namePosition? target generalizing parent front with
  | case1 target hkind =>
    obtain ⟨rfl, -⟩ := List.append_eq_nil_iff.mp (Option.some.inj hpos).symm
    obtain rfl := Option.some.inj hq
    intro hassignment
    simp [hassignment] at hkind
  | case2 target hname hkind inner hinner ih =>
    cases front with
    | nil =>
      obtain rfl := Option.some.inj hq
      intro hassignment
      simp [hassignment] at hkind
    | cons i front =>
      obtain ⟨inside, hinside, heq⟩ := Option.map_eq_some_iff.mp hpos
      obtain ⟨rfl, rfl⟩ := List.cons.inj heq
      rw [Placed.at?, Node.getElem?_codeIndex hinner] at hq
      exact ih hinside hq
  | case3 => cases hpos
  | case4 => cases hpos

/-- **On the way to a name that a chain binds**, every assignment but the first link stands below a
link.

**Proof sketch.** Induction along the chain. The way leads to the left side of the first link,
below which there are only parentheses (`kind_ne_of_namePosition?`), or to its right side, which
is the next link. -/
lemma parent_of_mem_boundPositions {p q : Placed} (hp : p.node.kind = "assignment")
    {front back : List Nat} (hpos : front ++ back ∈ boundPositions p.node) (hfront : front ≠ [])
    (hq : p.at? front = some q) (hkind : q.node.kind = "assignment") :
    ∃ parent, q.parent = some parent ∧ parent.kind = "assignment" := by
  obtain ⟨above, link⟩ := p
  dsimp only at hp hpos
  have hown : ∀ {above : Option Node} {link : Node} {front : List Nat}, front ≠ [] →
      linkPosition? link = some (front ++ back) →
        (Placed.mk above link).at? front ≠ some q := by
    intro above link front hfront hpos hq
    obtain ⟨inLeft, hinLeft, heq⟩ := Option.map_eq_some_iff.mp hpos
    obtain ⟨left, hleft, hname⟩ := Option.bind_eq_some_iff.mp hinLeft
    cases front with
    | nil => exact hfront rfl
    | cons i front =>
      obtain ⟨rfl, rfl⟩ := List.cons.inj heq
      rw [Placed.at?, Node.getElem?_fieldIndex hleft] at hq
      exact kind_ne_of_namePosition? hname hq hkind
  fun_induction boundPositions link generalizing above front with
  | case1 link next hnext ih =>
    obtain ⟨hright, hnextKind⟩ := nextLink?_eq_some_iff.mp hnext
    rcases List.mem_append.mp hpos with hpos | hpos
    · exact absurd hq (hown hfront (Option.mem_toList.mp hpos))
    · obtain ⟨inRight, hinRight, heq⟩ := List.mem_map.mp hpos
      cases front with
      | nil => exact absurd rfl hfront
      | cons i front =>
        obtain ⟨rfl, rfl⟩ := List.cons.inj heq
        rw [Placed.at?, Node.getElem?_fieldIndex hright] at hq
        by_cases hend : front = []
        · subst hend
          obtain rfl := Option.some.inj hq
          exact ⟨link, rfl, hp⟩
        · exact ih hend (some link) hnextKind hinRight hq
  | case2 link hnone => exact absurd hq (hown hfront (Option.mem_toList.mp hpos))

/-! ## The bindings of a file -/

/-- A name that is bound: the position of the statement in the file, and of the name in it. -/
structure Binding where
  statement : List Nat
  name : List Nat

/-- The position of a bound name in the file. -/
def Binding.position (b : Binding) : List Nat := b.statement ++ b.name

/-- The names that are bound at a position, if a statement is reached there. -/
def bindingsAt (top : Placed) (pos : List Nat) : List Binding :=
  match top.namedAt? pos with
  | some p => if classify p = .assignment then (boundPositions p.node).map (Binding.mk pos) else []
  | none => []

/-- The names that a file binds, in the order of the walk. -/
def bindings (root : Node) : List Binding := root.namedPositions.flatMap (bindingsAt ⟨none, root⟩)

/-- The bindings at a place are those of the assignment that is visited there. -/
lemma mem_bindingsAt_iff {top : Placed} {pos : List Nat} {b : Binding} :
    b ∈ bindingsAt top pos ↔ b.statement = pos ∧ ∃ p, top.namedAt? pos = some p ∧
      classify p = .assignment ∧ b.name ∈ boundPositions p.node := by
  unfold bindingsAt
  cases hp : top.namedAt? pos with
  | none => simp
  | some p =>
    by_cases hrole : classify p = .assignment
    · simp only [hrole, if_true, List.mem_map, Option.some.injEq]
      constructor
      · rintro ⟨name, hname, rfl⟩
        exact ⟨rfl, p, rfl, hrole, hname⟩
      · rintro ⟨rfl, p, rfl, -, hname⟩
        exact ⟨b.name, hname, rfl⟩
    · simp only [hrole, if_false, List.not_mem_nil, Option.some.injEq, false_iff]
      rintro ⟨-, p, rfl, hassignment, -⟩
      exact hrole hassignment

/-- No statement is on the way from another one to a name that this one binds. -/
lemma eq_nil_of_classify {p q : Placed} (hp : classify p = .assignment)
    (hq : classify q = .assignment) {front back : List Nat}
    (hpos : front ++ back ∈ boundPositions p.node) (hat : p.at? front = some q) : front = [] := by
  by_contra hfront
  obtain ⟨hpKind, -⟩ := of_classify_eq_assignment hp
  obtain ⟨hqKind, hplain⟩ := of_classify_eq_assignment hq
  obtain ⟨parent, hparent, hkind⟩ := parent_of_mem_boundPositions hpKind hpos hfront hat hqKind
  simp [isPlainAssignment, hparent, hkind] at hplain

/-- If two bindings are of one name, the statement of one is not below that of the other. -/
lemma eq_nil_of_mem_bindingsAt {top : Placed} {front between : List Nat} {b d : Binding}
    (hb : b ∈ bindingsAt top front) (hd : d ∈ bindingsAt top (front ++ between))
    (heq : b.position = d.position) : between = [] := by
  obtain ⟨hbAt, p, hp, hpRole, hname⟩ := mem_bindingsAt_iff.mp hb
  obtain ⟨hdAt, q, hq, hqRole, -⟩ := mem_bindingsAt_iff.mp hd
  rw [Binding.position, Binding.position, hbAt, hdAt, List.append_assoc] at heq
  rw [List.append_cancel_left heq] at hname
  rw [Placed.namedAt?_append, hp, Option.bind_some] at hq
  exact eq_nil_of_classify hpRole hqRole hname (Placed.at?_of_namedAt? hq)

/-- **No node is bound twice** in a file.

**Proof sketch.** The names that one statement binds are at different positions
(`nodup_boundPositions`). Of two statements that bind one name, one would be on the way from the
other to the name (`eq_nil_of_mem_bindingsAt`). -/
lemma nodup_bindings (root : Node) : ((bindings root).map Binding.position).Nodup := by
  rw [bindings, List.map_flatMap, List.nodup_flatMap]
  refine ⟨fun pos _ => ?_, ?_⟩
  · unfold bindingsAt
    split
    · split
      · rw [List.map_map]
        exact (nodup_boundPositions _).map fun _ _ => List.append_cancel_left
      · exact List.nodup_nil
    · exact List.nodup_nil
  · refine (Node.pairwise_namedPositions root).nodup.imp ?_
    intro first second hne
    refine List.disjoint_left.mpr fun pos hfirst hsecond => hne ?_
    obtain ⟨b, hb, rfl⟩ := List.mem_map.mp hfirst
    obtain ⟨d, hd, heq⟩ := List.mem_map.mp hsecond
    have hbAt := (mem_bindingsAt_iff.mp hb).1
    have hdAt := (mem_bindingsAt_iff.mp hd).1
    have hsplit : first ++ b.name = second ++ d.name := by
      rw [← hbAt, ← hdAt]
      exact heq.symm
    rcases List.append_eq_append_iff.mp hsplit with ⟨between, rfl, -⟩ | ⟨between, rfl, -⟩
    · simp [eq_nil_of_mem_bindingsAt hb hd heq.symm]
    · simp [eq_nil_of_mem_bindingsAt hd hb heq]

/-! ## The variables of a file -/

/-- The unit of a target of a statement: it has the lines and the text of the whole statement, and
the columns of the target. -/
structure Context.IsVariable (c : Context) (statement target : Node) (u : CodeUnit) : Prop where
  kind : u.kind = .variable
  name : u.name = c.textOf target
  startLine : u.startLine = statement.info.start.row + 1
  endLine : u.endLine = (codeEnd statement).row + 1
  sourceText : u.sourceText = Text.sliceLines c.lines u.startLine u.endLine
  startCol : u.startCol = target.info.start.column
  endCol : u.endCol = some target.info.stop.column

/-- A unit that is a binding of a file: the unit of the bound name. -/
def Context.IsBinding (c : Context) (root : Node) (b : Binding) (u : CodeUnit) : Prop :=
  ∃ p target, (Placed.mk none root).namedAt? b.statement = some p ∧ classify p = .assignment ∧
    NameAt p b.name target ∧ c.IsVariable p.node target u

/-- The variables of a statement are the names that its chain binds. -/
lemma Context.forall₂_isVariable (c : Context) (statement : Node) :
    List.Forall₂ (c.IsVariable statement) (nameTargets statement) (c.variableUnits statement) :=
  c.forall₂_variableUnits statement fun _ => ⟨rfl, rfl, rfl, rfl, rfl, rfl, rfl⟩

/-- The variables among the units of a node. -/
lemma Context.filter_ownUnits (c : Context) (p : Placed) :
    (c.ownUnits p).filter (·.kind = .variable) =
      if classify p = .assignment then c.variableUnits p.node else [] := by
  by_cases hrole : classify p = .assignment
  · rw [if_pos hrole, Context.ownUnits, hrole, List.filter_eq_self]
    intro u hu
    obtain ⟨link, -, hlink⟩ := List.mem_filterMap.mp hu
    obtain ⟨target, -, rfl⟩ := Option.map_eq_some_iff.mp hlink
    rfl
  · rw [if_neg hrole, List.filter_eq_nil_iff]
    intro u hu hkind
    exact hrole (classify_of_mem_ownUnits hu (by simpa using hkind))

/-- The variables of a node are its bindings. -/
lemma Context.forall₂_bindingsAt (c : Context) {root : Node} {pos : List Nat} {p : Placed}
    (hp : (Placed.mk none root).namedAt? pos = some p) :
    List.Forall₂ (c.IsBinding root) (bindingsAt ⟨none, root⟩ pos)
      ((c.ownUnits p).filter (·.kind = .variable)) := by
  rw [c.filter_ownUnits, bindingsAt, hp]
  by_cases hrole : classify p = .assignment
  · simp only [hrole, if_true]
    rw [List.forall₂_map_left_iff, variableUnits_eq_map, List.forall₂_map_right_iff]
    have hnames := forall₂_boundPositions p.parent p.node
    exact hnames.imp fun name target hat =>
      ⟨p, target, hp, hrole, hat, rfl, rfl, rfl, rfl, rfl, rfl, rfl⟩
  · simp only [hrole, if_false]
    exact .nil

/-- **The variables of a file are its bindings**: over every tree, no node is bound twice, and the
variables of a file are the bound names, one by one and in order. A statement gives one variable
for each name that its chain binds, all with the lines and the text of the statement and each with
the columns of its own name, from left to right where targets stand before values. Whatever is
named and stands below the statement, in its targets and values, is visited exactly once.

**Proof sketch.** The walk visits each named position once (`visitsOnce_visits`), and at each of
them the variables are the bindings there (`Context.forall₂_bindingsAt`). The bindings are at
different positions (`nodup_bindings`). -/
theorem extractUnits_bindings (filePath source : String) (root : Node) :
    ((bindings root).map Binding.position).Nodup ∧
      List.Forall₂ ((Context.ofFile filePath source).IsBinding root) (bindings root)
        ((extractUnits filePath source root).filter (·.kind = .variable)) ∧
      VisitsOnce ⟨none, root⟩ (visits ⟨none, root⟩) root.namedPositions ∧
      ∀ pos p, (Placed.mk none root).namedAt? pos = some p → classify p = .assignment →
        List.Forall₂ ((Context.ofFile filePath source).IsVariable p.node) (nameTargets p.node)
          ((Context.ofFile filePath source).ownUnits p) ∧
        List.Forall₂ (NameAt p) (boundPositions p.node) (nameTargets p.node) ∧
        ((∀ link ∈ chain p.node, link.fieldIndex "left" < link.fieldIndex "right") →
          (boundPositions p.node).Pairwise (· < ·)) ∧
        ∀ inside q, p.namedAt? inside = some q →
          (Placed.mk none root).namedAt? (pos ++ inside) = some q ∧
            root.namedPositions.count (pos ++ inside) = 1 := by
  let c := Context.ofFile filePath source
  refine ⟨nodup_bindings root, ?_, visitsOnce_visits _, fun pos p hp hrole => ⟨?_, ?_, ?_, ?_⟩⟩
  · have hvisits : List.Forall₂ (fun pos p => (Placed.mk none root).namedAt? pos = some p)
        root.namedPositions (visits ⟨none, root⟩) := by
      have heq := map_visits ⟨none, root⟩
      rw [← List.forall₂_eq_eq_eq, List.forall₂_map_left_iff, List.forall₂_map_right_iff] at heq
      exact heq.flip.imp fun _ _ h => h.symm
    rw [extractUnits, Context.walk_eq_flatMap_visits, List.filter_flatMap, bindings]
    exact List.rel_flatMap hvisits fun pos p hp => c.forall₂_bindingsAt hp
  · rw [Context.ownUnits, hrole]
    exact c.forall₂_isVariable p.node
  · exact forall₂_boundPositions p.parent p.node
  · intro hleft
    refine pairwise_boundPositions (fun i a b h => List.cons_lt_cons_iff.mpr (Or.inr ⟨rfl, h⟩)) ?_
    intro link hlink left _ next _ a b
    exact List.cons_lt_cons_iff.mpr (Or.inl (hleft link hlink))
  · intro inside q hq
    have hat : (Placed.mk none root).namedAt? (pos ++ inside) = some q := by
      rw [Placed.namedAt?_append, hp, Option.bind_some, hq]
    refine ⟨hat, List.count_eq_one_of_mem (Node.pairwise_namedPositions root).nodup ?_⟩
    exact ((Placed.mk none root).mem_namedPositions_iff _).mpr (by rw [hat]; rfl)

/-! ### A chain with parentheses around its second target -/

/-- The target `(b)`. -/
def parenthesizedTarget : Node :=
  sampleNode "tuple_pattern" (some "left") [sampleNode "identifier" none []]

/-- The inner link `(b) = 1`. -/
def parenthesizedLink : Node :=
  sampleNode "assignment" (some "right")
    [parenthesizedTarget, sampleNode "integer" (some "right") []]

/-- The statement `a = (b) = 1`. -/
def parenthesizedChain : Node :=
  sampleNode "assignment" none [sampleNode "identifier" (some "left") [], parenthesizedLink]

/-- A file with the statement. -/
def parenthesizedChainFile : Node :=
  sampleNode "module" none [sampleNode "expression_statement" none [parenthesizedChain]]

/-- The names `a` and `b` are bound in this order, `b` inside the second link, which is visited
once. -/
theorem parenthesizedChainFile_bindings :
    ∃ p, (Placed.mk none parenthesizedChainFile).namedAt? [0, 0] = some p ∧
      classify p = .assignment ∧ boundPositions p.node = [[0], [1, 0, 0]] ∧
      (boundPositions p.node).Pairwise (· < ·) ∧
      List.Forall₂ ((Context.ofFile "a.py" "class C").IsVariable p.node) (nameTargets p.node)
        ((Context.ofFile "a.py" "class C").ownUnits p) ∧
      parenthesizedChainFile.namedPositions.count [0, 0, 1] = 1 := by
  let p : Placed :=
    ⟨some (sampleNode "expression_statement" none [parenthesizedChain]), parenthesizedChain⟩
  have hfirst : nextLink? parenthesizedChain = some parenthesizedLink := rfl
  have hlast : nextLink? parenthesizedLink = none := rfl
  have hchain : chain parenthesizedChain = [parenthesizedChain, parenthesizedLink] := by
    rw [chain_eq, hfirst, Option.map_some, Option.getD_some, chain_eq, hlast]
    rfl
  obtain ⟨-, -, -, hstatements⟩ := extractUnits_bindings "a.py" "class C" parenthesizedChainFile
  obtain ⟨hvariables, -, hordered, hinside⟩ := hstatements [0, 0] p rfl rfl
  refine ⟨p, rfl, rfl, ?_, hordered ?_, hvariables, (hinside [1] _ rfl).2⟩
  · decide +kernel
  · rw [hchain]
    decide

end Extraction

end CodeCatalog
