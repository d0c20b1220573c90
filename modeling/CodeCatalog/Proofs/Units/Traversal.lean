import Mathlib.Data.List.Basic
import Mathlib.Data.List.Forall2
import Mathlib.Data.Nat.Init
import Mathlib.Tactic.Lemma
import CodeCatalog.Proofs.Units.WellFormed
import CodeCatalog.Units.Extract

/-!
# The walk over a syntax tree

The walk keeps a stack of nodes still to visit and pushes the named children of every node it
takes off. It meets the nodes in the order of the recursion over the tree: a node, then
everything below its named children, from left to right. Each node is identified by its
position, the numbers of the children on the way to it, so that equal nodes at different places
are told apart. What stands below a node that is not named is never met, like a line continuation
between the two words of one operator.

## Main definitions

* `CodeCatalog.Extraction.IdentifierTarget` — the identifier that the target of an assignment is.
* `CodeCatalog.Placed.at?`, `namedAt?` — the node at a position, and the same for positions that
  lead through named nodes only.
* `CodeCatalog.Placed.Reaches` — the positions that lead through named nodes only.
* `CodeCatalog.Syntax.Node.namedPositions` — a list of these positions.
* `CodeCatalog.Extraction.VisitsOnce` — visiting the nodes at these positions once, in order.
* `CodeCatalog.Extraction.Context.Yields` — which units a node has to give.

## Main results

* `CodeCatalog.Extraction.gather_eq` — the loop with the stack is the recursion over the trees on
  the stack.
* `CodeCatalog.Extraction.visitsOnce_visits` — the walk visits every such position once.
* `CodeCatalog.Extraction.extractUnits_eq_unitsBelow` — the units of a file are those of the
  recursion, one node after the other.
-/

namespace CodeCatalog

open Syntax

/-! ## Names -/

/-- The name of an expression, without the bookkeeping of the recursion. -/
lemma bareName?_eq (source : List Char) (n : Node) :
    bareName? source n =
      if n.kind == "identifier" then some (n.text source)
      else if n.kind == "parenthesized_expression" then
        (firstCodeChild? n).bind (bareName? source)
      else none := by
  rw [bareName?]
  split
  · rfl
  · split
    · split <;> simp_all
    · rfl

/-- The name of a target, without the bookkeeping of the recursion. -/
lemma nameTarget?_eq (n : Node) :
    nameTarget? n =
      if n.kind == "identifier" then some n
      else if n.kind == "tuple_pattern" || n.kind == "parenthesized_expression" then
        (onlyInside? n).bind nameTarget?
      else none := by
  rw [nameTarget?]
  split
  · rfl
  · split
    · split <;> simp_all
    · rfl

/-- The only one of some nodes is taken, unless something speaks against it. -/
lemma only_eq_some_iff {barred : Bool} {ns : List Node} {n : Node} :
    (if barred then none else
      match ns with
      | [inner] => some inner
      | _ => none) = some n ↔ barred = false ∧ ns = [n] := by
  cases barred with
  | true => simp
  | false =>
    simp only [Bool.false_eq_true, if_false, true_and]
    cases ns with
    | nil => simp
    | cons first rest => cases rest <;> simp

/-- What is alone in parentheses is the only one of the named children that are no comments. -/
lemma onlyInside?_eq_some_iff {n inner : Node} :
    onlyInside? n = some inner ↔ n.children.any (·.kind == ",") = false ∧
      (n.namedChildren.filter fun c => !c.isComment) = [inner] := by
  rw [onlyInside?]
  exact only_eq_some_iff

/-! ## Identifiers as targets -/

/-- Whether a node is a line continuation. -/
def Syntax.Node.isContinuation (n : Node) : Bool := n.kind == "line_continuation"

/-- Line continuations are told by their kind. -/
lemma Syntax.Node.isContinuation_iff {n : Node} :
    n.isContinuation ↔ n.kind = "line_continuation" := by
  rw [isContinuation, beq_iff_eq]

/-- The named children that are neither comments nor line continuations. -/
def Syntax.Node.content (n : Node) : List Node :=
  n.namedChildren.filter fun c => !c.isComment && !c.isContinuation

/-- The identifier that the target of an assignment is: the target itself, or what stands alone in
parentheses around it. Comments and line continuations beside it do not count. -/
inductive Extraction.IdentifierTarget : Node → Node → Prop
  | bare {n : Node} (hkind : n.kind = "identifier") : IdentifierTarget n n
  | inParentheses {n inner t : Node}
    (hkind : n.kind = "tuple_pattern" ∨ n.kind = "parenthesized_expression")
    (hcomma : n.children.any (·.kind == ",") = false) (halone : n.content = [inner])
    (h : IdentifierTarget inner t) : IdentifierTarget n t

/-- Without line continuations the content of a node is what is no comment. -/
lemma Syntax.Node.content_eq {n : Node} (h : n.Everywhere fun d => ¬ d.isContinuation) :
    n.content = n.namedChildren.filter fun c => !c.isComment := by
  refine List.filter_congr fun c hc => ?_
  have hplain := h c (.child (List.mem_filter.mp hc).1 .refl)
  simp [hplain]

/-- **Targets without line continuations are read as identifiers**: what is found in one is the
identifier that it is.

**Proof sketch.** Induction on the size of the target. In parentheses the only thing beside
comments is looked at, and without line continuations that is all there is. -/
lemma Extraction.nameTarget?_eq_some_iff_identifierTarget {target t : Node}
    (h : target.Everywhere fun d => ¬ d.isContinuation) :
    nameTarget? target = some t ↔ IdentifierTarget target t := by
  induction hsize : target.size using Nat.strong_induction_on generalizing target with
  | _ size ih =>
    subst hsize
    rw [nameTarget?_eq]
    constructor
    · intro hfound
      split at hfound
      · rename_i hkind
        cases hfound
        exact .bare (by simpa using hkind)
      · split at hfound
        · rename_i hkind
          obtain ⟨inner, honly, hinner⟩ := Option.bind_eq_some_iff.mp hfound
          have hc := mem_children_of_onlyInside? honly
          obtain ⟨hcomma, halone⟩ := onlyInside?_eq_some_iff.mp honly
          exact .inParentheses (by simpa using hkind) hcomma (by rw [Node.content_eq h, halone])
            ((ih _ (Node.size_lt_of_mem_children hc) (h.of_mem_children hc) rfl).mp hinner)
        · cases hfound
    · intro htarget
      cases htarget with
      | bare hkind => simp [hkind]
      | @inParentheses _ inner _ hkind hcomma halone hinner =>
        rw [Node.content_eq h] at halone
        have honly : onlyInside? target = some inner :=
          onlyInside?_eq_some_iff.mpr ⟨hcomma, halone⟩
        have hc := mem_children_of_onlyInside? honly
        have hfound :=
          (ih _ (Node.size_lt_of_mem_children hc) (h.of_mem_children hc) rfl).mpr hinner
        obtain hkind | hkind := hkind <;> simp [hkind, honly, hfound]

/-! ## Roles and chains -/

/-- The role of a node depends on its kind, the kind of the node above it, and the roles of its
children. -/
lemma classify_congr {p q : Placed} (hkind : q.node.kind = p.node.kind)
    (hparent : q.parent.map Node.kind = p.parent.map Node.kind)
    (hfield : ∀ field, (q.node.childByField? field).isSome =
      (p.node.childByField? field).isSome) : classify q = classify p := by
  have hplain (p : Placed) : isPlainAssignment p =
      ((p.parent.map Node.kind == some "expression_statement") &&
        (p.node.childByField? "right").isSome && !(p.node.childByField? "type").isSome) := by
    rw [isPlainAssignment, Option.not_isSome]
    cases p.parent <;> rfl
  rw [classify, classify, hkind, hplain q, hplain p, hparent, hfield, hfield]

namespace Extraction

/-- A chain of assignments, without the bookkeeping of the recursion. -/
lemma chain_eq (link : Node) : chain link = link :: ((nextLink? link).map chain).getD [] := by
  rw [chain]
  split <;> simp_all

/-! ## The loop and the recursion -/

section Loop

variable {α : Type}

/-- Induction over a tree along named children. -/
lemma namedChildren_induction {P : Placed → Prop}
    (step : ∀ p, (∀ q ∈ p.namedChildren, P q) → P p) (p : Placed) : P p := by
  induction hn : p.node.size using Nat.strong_induction_on generalizing p with
  | _ n ih =>
    refine step p fun q hq => ih _ ?_ q rfl
    obtain ⟨child, hchild, rfl⟩ := List.mem_map.mp hq
    rw [← hn]
    exact Node.size_lt_of_mem_children (List.mem_filter.mp hchild).1

/-- The recursion, without the bookkeeping of its termination. -/
lemma below_eq (own : Placed → List α) (p : Placed) :
    below own p = own p ++ p.namedChildren.flatMap (below own) := by
  rw [below]
  congr 1
  exact List.flatMap_subtype (fun _ _ => rfl) |>.trans (by rw [List.unattach_attach])

/-- **The loop is the recursion**: with a stack of nodes still to visit, the loop adds to what it
has gathered what the recursion gives for the nodes of the stack, from the top down.

**Proof sketch.** Induction along the loop. The node on top is replaced by its named children,
the leftmost on top (`push_reverse`), so the recursion over the new stack is the recursion over
the old one less what the node itself gives (`below_eq`). -/
lemma gather_eq (own : Placed → List α) (gathered : List α) (stack : List Placed) :
    gather own gathered stack = gathered.reverse ++ stack.flatMap (below own) := by
  fun_induction gather own gathered stack with
  | case1 gathered => simp
  | case2 gathered p stack ih =>
    rw [ih, push_reverse, List.flatMap_append, List.flatMap_cons, below_eq own p]
    simp

/-- What the recursion gives is given by the nodes it meets, one after the other. -/
lemma below_eq_flatMap (own : Placed → List α) (p : Placed) :
    below own p = (below (fun q => [q]) p).flatMap own := by
  induction p using namedChildren_induction with
  | step p ih =>
    rw [below_eq own p, below_eq (fun q => [q]) p, List.singleton_append, List.flatMap_cons,
      List.flatMap_assoc]
    exact congrArg (own p ++ ·) (List.flatMap_congr ih)

/-- The walk from a node gathers what the recursion gives. -/
lemma gather_singleton (own : Placed → List α) (p : Placed) : gather own [] [p] = below own p := by
  simp [gather_eq]

end Loop

/-- The walk visits the nodes in the order of the recursion. -/
lemma visits_eq (p : Placed) : visits p = p :: p.namedChildren.flatMap visits := by
  have hvisits : visits = below fun q => [q] := funext fun q => gather_singleton _ q
  rw [hvisits, below_eq, List.singleton_append]

/-- The walk visits the node where it begins. -/
lemma self_mem_visits (p : Placed) : p ∈ visits p := by
  rw [visits_eq]
  exact List.mem_cons_self

/-- What is visited from a named child is visited from the node. -/
lemma mem_visits_of_mem_namedChildren {p q r : Placed} (hq : q ∈ p.namedChildren)
    (hr : r ∈ visits q) : r ∈ visits p := by
  rw [visits_eq]
  exact List.mem_cons_of_mem _ (List.mem_flatMap.mpr ⟨q, hq, hr⟩)

/-- The units that the walk meets are those of the recursion. -/
lemma Context.walk_eq_unitsBelow (c : Context) (p : Placed) : c.walk p = c.unitsBelow p :=
  gather_singleton c.ownUnits p

/-- The units that the walk meets are those of the visited nodes, one after the other. -/
lemma Context.walk_eq_flatMap_visits (c : Context) (p : Placed) :
    c.walk p = (visits p).flatMap c.ownUnits := by
  rw [Context.walk, visits, gather_singleton, gather_singleton, below_eq_flatMap]

end Extraction

/-! ## Positions -/

/-- The node at a position, that is behind the children with these numbers. -/
def Placed.at? (p : Placed) : List Nat → Option Placed
  | [] => some p
  | i :: pos =>
    match p.node.children[i]? with
    | some child => (Placed.mk (some p.node) child).at? pos
    | none => none

/-- The node at a position that leads through named nodes only. -/
def Placed.namedAt? (p : Placed) : List Nat → Option Placed
  | [] => some p
  | i :: pos =>
    match p.node.children[i]? with
    | some child =>
      if child.info.named then (Placed.mk (some p.node) child).namedAt? pos else none
    | none => none

namespace Syntax.Node

mutual

/-- The positions in a tree that lead through named nodes only, in order. -/
def namedPositions : Node → List (List Nat)
  | .mk _ children => [] :: namedPositionsFrom 0 children

/-- The positions that begin at one of some children, which are numbered from `i` on. -/
def namedPositionsFrom (i : Nat) : List Node → List (List Nat)
  | [] => []
  | n :: ns =>
    (if n.info.named then n.namedPositions.map (i :: ·) else []) ++ namedPositionsFrom (i + 1) ns

end

/-- The places of the named nodes are the root and those below the children. -/
lemma namedPositions_eq (n : Node) :
    n.namedPositions = [] :: namedPositionsFrom 0 n.children := by
  cases n
  rfl

/-- The positions at some children begin with a number of one of them. -/
lemma le_of_mem_namedPositionsFrom {i : Nat} {ns : List Node} {pos : List Nat}
    (h : pos ∈ namedPositionsFrom i ns) : ∃ j rest, pos = j :: rest ∧ i ≤ j := by
  induction ns generalizing i with
  | nil => cases h
  | cons n ns ih =>
    rw [namedPositionsFrom, List.mem_append] at h
    rcases h with h | h
    · split at h
      · obtain ⟨rest, -, rfl⟩ := List.mem_map.mp h
        exact ⟨i, rest, rfl, Nat.le_refl i⟩
      · cases h
    · obtain ⟨j, rest, rfl, hj⟩ := ih h
      exact ⟨j, rest, rfl, by omega⟩

/-- A position at one of some children leads to a named one of them, and on from there. -/
lemma mem_namedPositionsFrom_iff {i k : Nat} {ns : List Node} {pos : List Nat} :
    k :: pos ∈ namedPositionsFrom i ns ↔
      ∃ j n, k = i + j ∧ ns[j]? = some n ∧ n.info.named ∧ pos ∈ n.namedPositions := by
  induction ns generalizing i with
  | nil => simp [namedPositionsFrom]
  | cons n ns ih =>
    rw [namedPositionsFrom, List.mem_append, ih]
    constructor
    · rintro (h | ⟨j, m, rfl, hm, hnamed, hpos⟩)
      · split at h
        · rename_i hnamed
          obtain ⟨rest, hrest, hk⟩ := List.mem_map.mp h
          obtain ⟨rfl, rfl⟩ := List.cons.inj hk
          exact ⟨0, n, rfl, rfl, hnamed, hrest⟩
        · cases h
      · exact ⟨j + 1, m, by omega, by simpa using hm, hnamed, hpos⟩
    · rintro ⟨j, m, rfl, hm, hnamed, hpos⟩
      cases j with
      | zero =>
        obtain rfl : n = m := by simpa using hm
        left
        rw [if_pos hnamed]
        exact List.mem_map.mpr ⟨pos, hpos, rfl⟩
      | succ j => exact Or.inr ⟨j, m, by omega, by simpa using hm, hnamed, hpos⟩

mutual

/-- Positions are listed in the order of their numbers, so none is listed twice. -/
theorem pairwise_namedPositions : (n : Node) → n.namedPositions.Pairwise (· < ·)
  | .mk _ children => by
    rw [namedPositions, List.pairwise_cons]
    refine ⟨fun pos hpos => ?_, pairwise_namedPositionsFrom 0 children⟩
    obtain ⟨j, rest, rfl, -⟩ := le_of_mem_namedPositionsFrom hpos
    exact List.nil_lt_cons j rest

/-- The positions at some children are listed in the order of their numbers. -/
theorem pairwise_namedPositionsFrom (i : Nat) :
    (ns : List Node) → (namedPositionsFrom i ns).Pairwise (· < ·)
  | [] => List.Pairwise.nil
  | n :: ns => by
    rw [namedPositionsFrom, List.pairwise_append]
    refine ⟨?_, pairwise_namedPositionsFrom (i + 1) ns, ?_⟩
    · split
      · refine List.pairwise_map.mpr ((pairwise_namedPositions n).imp fun h => ?_)
        exact List.cons_lt_cons_iff.mpr (Or.inr ⟨rfl, h⟩)
      · exact List.Pairwise.nil
    · intro a ha b hb
      split at ha
      · obtain ⟨rest, -, rfl⟩ := List.mem_map.mp ha
        obtain ⟨j, rest', rfl, hj⟩ := le_of_mem_namedPositionsFrom hb
        exact List.cons_lt_cons_iff.mpr (Or.inl (by omega))
      · cases ha

end

end Syntax.Node

/-- The positions listed are those at which a node stands, reached through named nodes only. -/
lemma Placed.mem_namedPositions_iff (p : Placed) (pos : List Nat) :
    pos ∈ p.node.namedPositions ↔ (p.namedAt? pos).isSome := by
  induction pos generalizing p with
  | nil => simp [Node.namedPositions_eq, Placed.namedAt?]
  | cons i pos ih =>
    rw [Node.namedPositions_eq, List.mem_cons, Node.mem_namedPositionsFrom_iff]
    simp only [reduceCtorEq, false_or, Nat.zero_add]
    cases hchild : p.node.children[i]? with
    | none => simp [Placed.namedAt?, hchild]
    | some child =>
      by_cases hnamed : child.info.named
      · simp [Placed.namedAt?, hchild, hnamed, ← ih ⟨some p.node, child⟩]
      · simp [Placed.namedAt?, hchild, hnamed]

/-- A position at which a node stands that is reached through named nodes only: from the one below
the top on, every node on the way is named, and so is the last. -/
def Placed.Reaches (top : Placed) (pos : List Nat) : Prop :=
  (top.at? pos).isSome ∧
    ∀ above, above <+: pos → above ≠ [] → ∀ q, top.at? above = some q → q.node.info.named

/-- A node that is found through named nodes stands at its position. -/
lemma Placed.at?_of_namedAt? {p q : Placed} {pos : List Nat} (h : p.namedAt? pos = some q) :
    p.at? pos = some q := by
  induction pos generalizing p with
  | nil => exact h
  | cons i pos ih =>
    rw [Placed.namedAt?] at h
    rw [Placed.at?]
    cases hchild : p.node.children[i]? with
    | none => simp [hchild] at h
    | some child =>
      simp only [hchild] at h ⊢
      split at h
      · exact ih h
      · cases h

/-- A position is reached from a node exactly if its first number is that of a named child, and
the other ones are reached from there. -/
lemma Placed.reaches_cons_iff {p : Placed} {i : Nat} {pos : List Nat} :
    p.Reaches (i :: pos) ↔ ∃ child, p.node.children[i]? = some child ∧ child.info.named ∧
      (Placed.mk (some p.node) child).Reaches pos := by
  cases hchild : p.node.children[i]? with
  | none => simp [Placed.Reaches, Placed.at?, hchild]
  | some child =>
    have hat (above : List Nat) :
        p.at? (i :: above) = (Placed.mk (some p.node) child).at? above := by
      rw [Placed.at?, hchild]
    simp only [Option.some.injEq, exists_eq_left']
    constructor
    · rintro ⟨hsome, hnamed⟩
      have hfirst := hnamed [i] ⟨pos, rfl⟩ (List.cons_ne_nil i []) ⟨some p.node, child⟩ (hat [])
      refine ⟨hfirst, by rwa [← hat], fun above habove _ q hq => ?_⟩
      exact hnamed (i :: above) (List.cons_prefix_cons.mpr ⟨rfl, habove⟩)
        (List.cons_ne_nil i above) q (by rwa [hat])
    · rintro ⟨hfirst, hsome, hnamed⟩
      refine ⟨by rwa [hat], fun above habove hne q hq => ?_⟩
      cases above with
      | nil => exact absurd rfl hne
      | cons j above =>
        obtain ⟨rfl, hrest⟩ := List.cons_prefix_cons.mp habove
        rw [hat] at hq
        cases above with
        | nil =>
          obtain rfl : Placed.mk (some p.node) child = q := Option.some.inj hq
          exact hfirst
        | cons k above => exact hnamed _ hrest (List.cons_ne_nil k above) q hq

/-- A node is found through named nodes exactly at the positions that are reached. -/
lemma Placed.isSome_namedAt?_iff {p : Placed} {pos : List Nat} :
    (p.namedAt? pos).isSome ↔ p.Reaches pos := by
  induction pos generalizing p with
  | nil => simp [Placed.namedAt?, Placed.Reaches, Placed.at?]
  | cons i pos ih =>
    rw [Placed.reaches_cons_iff, Placed.namedAt?]
    cases hchild : p.node.children[i]? with
    | none => simp
    | some child =>
      by_cases hnamed : child.info.named
      · simp [hnamed, ih]
      · simp [hnamed]

namespace Extraction

/-- The walk below children of a node is the walk at their positions.

**Proof sketch.** Induction on the children, whose numbers are kept in step with those of all
children of the node. A named child is found at its number, so the positions below it are its
own behind that number. -/
lemma map_visits_children {p : Placed} {i : Nat} {ns : List Node}
    (hget : ∀ j, p.node.children[i + j]? = ns[j]?)
    (hvisits : ∀ n ∈ ns, (visits ⟨some p.node, n⟩).map some =
      n.namedPositions.map (Placed.mk (some p.node) n).namedAt?) :
    (((ns.filter (·.info.named)).map (Placed.mk (some p.node))).flatMap visits).map some =
      (Node.namedPositionsFrom i ns).map p.namedAt? := by
  induction ns generalizing i with
  | nil => rfl
  | cons n ns ih =>
    have hn : p.node.children[i]? = some n := by simpa using hget 0
    have hget' : ∀ j, p.node.children[i + 1 + j]? = ns[j]? := by
      intro j
      have hj := hget (j + 1)
      rw [List.getElem?_cons_succ] at hj
      rw [← hj]
      congr 1
      omega
    have ih' := ih hget' fun m hm => hvisits m (List.mem_cons_of_mem n hm)
    rw [Node.namedPositionsFrom, List.map_append, ← ih', List.filter_cons]
    by_cases hnamed : n.info.named
    · have hhead : (n.namedPositions.map (i :: ·)).map p.namedAt? =
          n.namedPositions.map (Placed.mk (some p.node) n).namedAt? := by
        rw [List.map_map]
        refine List.map_congr_left fun pos _ => ?_
        simp [Placed.namedAt?, hn, hnamed]
      simp only [hnamed, if_true, List.map_cons, List.flatMap_cons, List.map_append]
      rw [hhead, hvisits n List.mem_cons_self]
    · simp [hnamed]

/-- The walk from a node visits, one after the other, the nodes at the positions that lead
through named nodes only. -/
lemma map_visits (p : Placed) :
    (visits p).map some = p.node.namedPositions.map p.namedAt? := by
  induction hn : p.node.size using Nat.strong_induction_on generalizing p with
  | _ n ih =>
    rw [visits_eq, Node.namedPositions_eq, List.map_cons, List.map_cons]
    congr 1
    refine map_visits_children (fun j => by rw [Nat.zero_add]) fun child hchild => ?_
    exact ih _ (hn ▸ Node.size_lt_of_mem_children hchild) ⟨some p.node, child⟩ rfl

/-- Visiting every node that is reached through named nodes exactly once, in order: the visits
are at positions that are listed in increasing order, and these are all such positions. -/
structure VisitsOnce (top : Placed) (nodes : List Placed) (positions : List (List Nat)) :
    Prop where
  increasing : positions.Pairwise (· < ·)
  mem_iff : ∀ pos, pos ∈ positions ↔ top.Reaches pos
  visited : nodes.map some = positions.map top.at?

/-- The walk visits every node that is reached through named nodes exactly once, in order. -/
lemma visitsOnce_visits (p : Placed) : VisitsOnce p (visits p) p.node.namedPositions where
  increasing := Node.pairwise_namedPositions p.node
  mem_iff := fun pos => (p.mem_namedPositions_iff pos).trans Placed.isSome_namedAt?_iff
  visited := by
    rw [map_visits]
    refine List.map_congr_left fun pos hpos => ?_
    obtain ⟨q, hq⟩ := Option.isSome_iff_exists.mp ((p.mem_namedPositions_iff pos).mp hpos)
    rw [hq, Placed.at?_of_namedAt? hq]

/-! ## The units of a node -/

/-- The targets of a chain of assignments that are names, from left to right. -/
def nameTargets (statement : Node) : List Node :=
  (chain statement).filterMap fun link => (link.childByField? "left").bind nameTarget?

/-- Which units a node has to give. -/
inductive Context.Yields (c : Context) (p : Placed) : List CodeUnit → Prop
  /-- A function with a name gives one unit, with parameters and without base types. -/
  | function (u : CodeUnit) (hkind : p.node.kind = "function_definition")
      (hname : c.nameOf? p.node = some u.name) (hunit : u.kind = .function)
      (hparameters : u.parameters.isSome) (hbases : u.baseTypes = none) : Yields c p [u]
  /-- A class with a name gives one unit, with base types and without parameters. -/
  | classDef (u : CodeUnit) (hkind : p.node.kind = "class_definition")
      (hname : c.nameOf? p.node = some u.name) (hunit : u.kind = .classDef)
      (hparameters : u.parameters = none) (hbases : u.baseTypes.isSome) : Yields c p [u]
  /-- A definition without a name gives none. -/
  | nameless (hkind : p.node.kind = "function_definition" ∨ p.node.kind = "class_definition")
      (hname : c.nameOf? p.node = none) : Yields c p []
  /-- A plain assignment gives one unit for each target of its chain that is a name, with
  neither parameters nor base types. -/
  | assignment (us : List CodeUnit) (hkind : p.node.kind = "assignment")
      (hplain : isPlainAssignment p)
      (hunits : List.Forall₂ (fun target u => u.kind = .variable ∧ u.name = c.textOf target ∧
        u.parameters = none ∧ u.baseTypes = none) (nameTargets p.node) us) : Yields c p us
  /-- Any other node gives none. -/
  | other (hfunction : p.node.kind ≠ "function_definition")
      (hclass : p.node.kind ≠ "class_definition")
      (hassignment : ¬ (p.node.kind = "assignment" ∧ isPlainAssignment p)) : Yields c p []

/-- The units of a chain of assignments are those of its targets that are names. -/
lemma Context.variableUnits_eq_map (c : Context) (statement : Node) :
    c.variableUnits statement = (nameTargets statement).map fun target =>
      c.unit .variable (c.textOf target) [] none none
        (assignmentSpan statement target c.lines) := by
  rw [nameTargets, List.map_filterMap]
  rfl

/-- What holds of the unit of each target holds along a chain. -/
lemma Context.forall₂_variableUnits {R : Node → CodeUnit → Prop} (c : Context) (statement : Node)
    (h : ∀ target, R target (c.unit .variable (c.textOf target) [] none none
      (assignmentSpan statement target c.lines))) :
    List.Forall₂ R (nameTargets statement) (c.variableUnits statement) := by
  rw [variableUnits_eq_map, List.forall₂_map_right_iff, List.forall₂_same]
  exact fun target _ => h target

/-- A node gives the units that it has to give.

**Proof sketch.** The cases follow the role of the node: the two kinds of definitions, each with
a name or without, plain assignments, and everything else. -/
lemma Context.yields_ownUnits (c : Context) (p : Placed) : c.Yields p (c.ownUnits p) := by
  unfold Context.ownUnits classify
  by_cases hf : p.node.kind = "function_definition"
  · simp only [hf, beq_self_eq_true, if_true, Context.functionUnit?]
    cases hname : c.nameOf? p.node with
    | none => exact .nameless (Or.inl hf) hname
    | some name => exact .function _ hf hname rfl rfl rfl
  by_cases hc : p.node.kind = "class_definition"
  · simp only [hc, beq_iff_eq, beq_self_eq_true, if_true, Context.classUnit?]
    rw [if_neg (by decide)]
    cases hname : c.nameOf? p.node with
    | none => exact .nameless (Or.inr hc) hname
    | some name => exact .classDef _ hc hname rfl rfl rfl
  by_cases ha : p.node.kind = "assignment" ∧ isPlainAssignment p
  · simp only [beq_iff_eq, ha.1, ha.2, beq_self_eq_true, Bool.and_self, if_true]
    exact .assignment _ ha.1 ha.2
      (c.forall₂_variableUnits p.node fun _ => ⟨rfl, rfl, rfl, rfl⟩)
  · have hrole : ¬ ((p.node.kind == "assignment" && isPlainAssignment p) = true) := by
      simpa using ha
    simp only [beq_iff_eq, hf, hc, if_false, hrole]
    exact .other hf hc ha

/-! ## The units of a file -/

/-- **The walk over a file is the recursion over its tree**: for every tree and text, the units
of a file are those of the recursive definition, a node's own units followed by those of its
named children from left to right. They are the units of the visited nodes, one after the other;
the walk visits each node that is reached through named nodes exactly once and no others; each
visited node gives the units that its kind demands and no others; and a target without line
continuations counts as the identifier that it is.

**Proof sketch.** `gather_eq` makes the loop with the stack the recursion. The positions of the
visits are `Node.namedPositions`, `Context.yields_ownUnits` goes through the kinds of nodes, and
`nameTarget?_eq_some_iff_identifierTarget` through the parentheses of a target. -/
theorem extractUnits_eq_unitsBelow (filePath source : String) (root : Node) :
    extractUnits filePath source root =
        (Context.ofFile filePath source).unitsBelow ⟨none, root⟩ ∧
      extractUnits filePath source root =
        (visits ⟨none, root⟩).flatMap (Context.ofFile filePath source).ownUnits ∧
      (∃ positions, VisitsOnce ⟨none, root⟩ (visits ⟨none, root⟩) positions) ∧
      (∀ p ∈ visits ⟨none, root⟩, (Context.ofFile filePath source).Yields p
        ((Context.ofFile filePath source).ownUnits p)) ∧
      ∀ target t : Node, (target.Everywhere fun d => ¬ d.isContinuation) →
        (nameTarget? target = some t ↔ IdentifierTarget target t) :=
  ⟨Context.walk_eq_unitsBelow _ _, Context.walk_eq_flatMap_visits _ _,
    ⟨_, visitsOnce_visits _⟩, fun p _ => Context.yields_ownUnits _ p,
    fun _ _ h => nameTarget?_eq_some_iff_identifierTarget h⟩

/-! ### A class with a method -/

/-- A node with a kind and a role, on the first line. -/
def sampleNode (kind : String) (field : Option String) (children : List Node) : Node :=
  .mk { kind, field, startByte := 6, endByte := 7, start := ⟨0, 6⟩, stop := ⟨0, 7⟩ } children

/-- The method of the sample. -/
def sampleMethod : Node :=
  sampleNode "function_definition" none [sampleNode "identifier" (some "name") []]

/-- The body of the class of the sample. -/
def sampleBody : Node := sampleNode "block" (some "body") [sampleMethod]

/-- A file with a class that has a method. -/
def sampleFile : Node :=
  sampleNode "module" none
    [sampleNode "class_definition" none [sampleNode "identifier" (some "name") [], sampleBody]]

/-- The walk comes to the method inside the class, which gives its unit, and the name of the method
would be one as a target, too. -/
theorem sampleFile_visits_method :
    (⟨some sampleBody, sampleMethod⟩ : Placed) ∈ visits ⟨none, sampleFile⟩ ∧
      (Context.ofFile "a.py" "class C").Yields ⟨some sampleBody, sampleMethod⟩
        ((Context.ofFile "a.py" "class C").ownUnits ⟨some sampleBody, sampleMethod⟩) ∧
      IdentifierTarget (sampleNode "identifier" (some "name") [])
        (sampleNode "identifier" (some "name") []) := by
  have hvisited : (⟨some sampleBody, sampleMethod⟩ : Placed) ∈ visits ⟨none, sampleFile⟩ := by
    simp [visits_eq, Placed.namedChildren, Node.namedChildren, Node.children, Node.info,
      sampleFile, sampleBody, sampleMethod, sampleNode]
  obtain ⟨-, -, -, hyields, hread⟩ := extractUnits_eq_unitsBelow "a.py" "class C" sampleFile
  refine ⟨hvisited, hyields _ hvisited, (hread _ _ ?_).mp ?_⟩
  · simp [sampleNode, Node.everywhere_mk, Node.isContinuation, Node.kind, Node.info]
  · rw [nameTarget?_eq]
    rfl

/-! ### Line continuations inside an operator and inside parentheses -/

/-- A line continuation between the two words of an operator. -/
def operatorBreak : Node :=
  .mk { kind := "line_continuation", startByte := 10, endByte := 12
        start := ⟨0, 10⟩, stop := ⟨1, 0⟩ } []

/-- The operator. -/
def brokenOperator : Node :=
  .mk { kind := "not in", named := false, field := some "operators", startByte := 6, endByte := 15
        start := ⟨0, 6⟩, stop := ⟨1, 3⟩ }
    [.mk { kind := "not", named := false, startByte := 6, endByte := 9
           start := ⟨0, 6⟩, stop := ⟨0, 9⟩ } [],
      operatorBreak,
      .mk { kind := "in", named := false, startByte := 13, endByte := 15
            start := ⟨1, 1⟩, stop := ⟨1, 3⟩ } []]

/-- A statement whose value is a comparison with this operator. -/
def brokenComparison : Node :=
  .mk { kind := "expression_statement", startByte := 0, endByte := 17
        start := ⟨0, 0⟩, stop := ⟨1, 5⟩ }
    [.mk { kind := "assignment", startByte := 0, endByte := 17, start := ⟨0, 0⟩, stop := ⟨1, 5⟩ }
      [.mk { kind := "identifier", field := some "left", startByte := 0, endByte := 1
             start := ⟨0, 0⟩, stop := ⟨0, 1⟩ } [],
        .mk { kind := "=", named := false, startByte := 2, endByte := 3
              start := ⟨0, 2⟩, stop := ⟨0, 3⟩ } [],
        .mk { kind := "comparison_operator", field := some "right", startByte := 4, endByte := 17
              start := ⟨0, 4⟩, stop := ⟨1, 5⟩ }
          [.mk { kind := "identifier", startByte := 4, endByte := 5
                 start := ⟨0, 4⟩, stop := ⟨0, 5⟩ } [],
            brokenOperator,
            .mk { kind := "identifier", startByte := 16, endByte := 17
                  start := ⟨1, 4⟩, stop := ⟨1, 5⟩ } []]]]

/-- The identifier of a target in parentheses. -/
def brokenName : Node :=
  .mk { kind := "identifier", startByte := 22, endByte := 23
        start := ⟨3, 1⟩, stop := ⟨3, 2⟩ } []

/-- The target, with a line continuation in its parentheses. -/
def brokenTarget : Node :=
  .mk { kind := "tuple_pattern", field := some "left", startByte := 18, endByte := 24
        start := ⟨2, 0⟩, stop := ⟨3, 3⟩ }
    [.mk { kind := "(", named := false, startByte := 18, endByte := 19
           start := ⟨2, 0⟩, stop := ⟨2, 1⟩ } [],
      .mk { kind := "line_continuation", startByte := 19, endByte := 21
            start := ⟨2, 1⟩, stop := ⟨3, 0⟩ } [],
      brokenName,
      .mk { kind := ")", named := false, startByte := 23, endByte := 24
            start := ⟨3, 2⟩, stop := ⟨3, 3⟩ } []]

/-- An assignment to the target. -/
def brokenAssignment : Node :=
  .mk { kind := "assignment", startByte := 18, endByte := 28, start := ⟨2, 0⟩, stop := ⟨3, 7⟩ }
    [brokenTarget,
      .mk { kind := "=", named := false, startByte := 25, endByte := 26
            start := ⟨3, 4⟩, stop := ⟨3, 5⟩ } [],
      .mk { kind := "integer", field := some "right", startByte := 27, endByte := 28
            start := ⟨3, 6⟩, stop := ⟨3, 7⟩ } []]

/-- A statement with the assignment. -/
def brokenStatement : Node :=
  .mk { kind := "expression_statement", startByte := 18, endByte := 28
        start := ⟨2, 0⟩, stop := ⟨3, 7⟩ } [brokenAssignment]

/-- The text of a file with a comparison and an assignment, each broken by a line continuation. -/
def brokenText : String := "x = a not \\\n in b\n(\\\n y) = 1\n"

/-- The tree of the file. -/
def brokenFile : Node :=
  .mk { kind := "module", startByte := 0, endByte := 29, start := ⟨0, 0⟩, stop := ⟨4, 0⟩ }
    [brokenComparison, brokenStatement]

/-- The line continuation inside the operator is a named node that is never visited, and the plain
assignment to an identifier in parentheses gives no unit. -/
theorem brokenFile_unvisited :
    (∃ pos q, (Placed.mk none brokenFile).at? pos = some q ∧ q.node.info.named ∧
      q ∉ visits ⟨none, brokenFile⟩) ∧
    ∃ p ∈ visits ⟨none, brokenFile⟩, classify p = .assignment ∧
      p.node.childByField? "left" = some brokenTarget ∧ IdentifierTarget brokenTarget brokenName ∧
      (Context.ofFile "t.py" brokenText).ownUnits p = [] := by
  have hstatement : (⟨some brokenFile, brokenStatement⟩ : Placed) ∈
      (Placed.mk none brokenFile).namedChildren := .tail _ (.head _)
  have hassignment : (⟨some brokenStatement, brokenAssignment⟩ : Placed) ∈
      (Placed.mk (some brokenFile) brokenStatement).namedChildren := .head _
  refine ⟨⟨[0, 0, 2, 1, 1], ⟨some brokenOperator, operatorBreak⟩, rfl, rfl, fun hmem => ?_⟩,
    ⟨some brokenStatement, brokenAssignment⟩, ?_, ?_, rfl, ?_, ?_⟩
  · -- no node that is visited begins where the line continuation does
    have hstart : operatorBreak.info.startByte ∈
        (visits ⟨none, brokenFile⟩).map (·.node.info.startByte) := List.mem_map.mpr ⟨_, hmem, rfl⟩
    exact absurd hstart (by decide +kernel)
  · exact mem_visits_of_mem_namedChildren hstatement
      (mem_visits_of_mem_namedChildren hassignment (self_mem_visits _))
  · decide +kernel
  · exact .inParentheses (Or.inl rfl) rfl rfl (.bare rfl)
  · decide +kernel

end Extraction

end CodeCatalog
