import CodeCatalog.Proofs.Syntax.Extras

/-!
# Parentheses in syntax trees

A node is in parentheses if it is the only named node in them besides comments. Two trees are
compared that have the same nodes, where in the second one the names of decorators, of base classes
and of assignment targets may stand in more parentheses, to any depth. Between the parentheses there
may be comments.

## Main definitions

* `CodeCatalog.Syntax.Node.HoldsOnly` — parentheses and what is in them.
* `CodeCatalog.Syntax.Node.Encloses` — parentheses around a node, to any depth.
* `CodeCatalog.Syntax.Node.OrderlyParentheses` — parentheses and comments as parsers put them.
* `CodeCatalog.Syntax.Node.parenthesesAt` — where names may be in more parentheses.
* `CodeCatalog.Syntax.Node.Parenthesized` — a tree and the same with more parentheses.

## Main results

* `CodeCatalog.Syntax.Node.of_mem_parenthesesAt` — below which nodes parentheses are added.
* `CodeCatalog.Syntax.Node.Parenthesized.childByField?`, `namedChildren` — what is found among
  children.
-/

namespace CodeCatalog.Syntax.Node

/-! ## Parentheses around a node -/

/-- A node in which another one is the only named one besides comments, without a comma. -/
structure HoldsOnly (n inner : Node) : Prop where
  inside : (n.namedChildren.filter fun c => !c.isComment) = [inner]
  comma : ∀ c ∈ n.children, c.kind ≠ ","

/-- Nodes of some kinds around a node, one in the other. -/
inductive Encloses (kinds : List String) (inner : Node) : Node → Prop
  | self : Encloses kinds inner inner
  | ring {n m : Node} (hkind : n.kind ∈ kinds) (honly : n.HoldsOnly m)
      (h : Encloses kinds inner m) : Encloses kinds inner n

/-- The kind of the parentheses around expressions. -/
def expressionParentheses : List String := ["parenthesized_expression"]

/-- The kinds of the parentheses around assignment targets. -/
def targetParentheses : List String := ["tuple_pattern", "parenthesized_expression"]

/-- A node as parsers put it: parentheses hold one expression besides comments, and a comment has no
children. -/
@[mk_iff]
structure OrderlyParentheses (n : Node) : Prop where
  single : n.kind = "parenthesized_expression" → ∃ inner, n.HoldsOnly inner
  childless : n.isComment → n.children = []

section Encloses

variable {kinds : List String} {n m inner : Node}

/-- What stands alone in a node is one of its named children. -/
lemma HoldsOnly.mem_namedChildren (h : n.HoldsOnly m) : m ∈ n.namedChildren :=
  List.mem_of_mem_filter (h.inside ▸ List.mem_singleton_self m)

/-- What stands alone in a node is one of its children. -/
lemma HoldsOnly.mem_children (h : n.HoldsOnly m) : m ∈ n.children :=
  mem_children_of_mem_namedChildren h.mem_namedChildren

/-- What stands alone in a node is no comment. -/
lemma HoldsOnly.not_isComment (h : n.HoldsOnly m) : ¬ m.isComment := by
  have hmem : m ∈ n.namedChildren.filter fun c => !c.isComment :=
    h.inside ▸ List.mem_singleton_self m
  simpa using (List.mem_filter.mp hmem).2

/-- With more kinds of parentheses the same is enclosed. -/
lemma Encloses.mono {kinds' : List String} (h : Encloses kinds inner n) (hkinds : kinds ⊆ kinds') :
    Encloses kinds' inner n := by
  induction h with
  | self => exact .self
  | ring hkind honly _ ih => exact .ring (hkinds hkind) honly ih

/-- Without kinds of parentheses there are none. -/
lemma Encloses.eq_of_nil (h : Encloses [] inner n) : n = inner := by
  cases h with
  | self => rfl
  | ring hkind _ _ => cases hkind

/-- What is enclosed stands inside. -/
lemma Encloses.within (h : Encloses kinds inner n) : inner.Within n := by
  induction h with
  | self => exact .refl
  | ring _ honly _ ih => exact .child honly.mem_children ih

/-- Parentheses of other kinds do not change whether a node is a comment. -/
lemma Encloses.isComment_eq (h : Encloses kinds inner n) (hkinds : "comment" ∉ kinds) :
    n.isComment = inner.isComment := by
  induction h with
  | self => rfl
  | @ring n m hkind honly _ ih =>
    have hring : ¬ n.isComment := by
      intro hcomment
      exact hkinds (isComment_iff.mp hcomment ▸ hkind)
    rw [← ih, Bool.eq_false_of_not_eq_true hring, Bool.eq_false_of_not_eq_true honly.not_isComment]

end Encloses

/-! ## More parentheses in a tree -/

/-- The kinds of parentheses that may be added around a child with a role, by what is known about
its parent: around the expression of a decorator, around a base class, and around the target of an
assignment, which is a statement or a link of a chain. -/
def parenthesesAt (above : NodeInfo) (role : Option String) : List String :=
  if above.kind = "decorator" ∧ above.field = none ∨
      above.kind = "argument_list" ∧ above.field = some "superclasses" then expressionParentheses
  else if above.kind = "assignment" ∧ (above.field = none ∨ above.field = some "right") ∧
      role = some "left" then targetParentheses
  else []

mutual

/-- A tree, and a tree with the same nodes in which names may be in more parentheses. The nodes are
related by what is known about them. -/
inductive Parenthesized (R : NodeInfo → NodeInfo → Prop) : Node → Node → Prop
  | node {i j : NodeInfo} {ns ms : List Node} (hinfo : R i j)
      (hchildren : ParenthesizedBelow R i ns ms) : Parenthesized R (.mk i ns) (.mk j ms)

/-- The children of such trees. -/
inductive ParenthesizedBelow (R : NodeInfo → NodeInfo → Prop) :
    NodeInfo → List Node → List Node → Prop
  | nil {above : NodeInfo} : ParenthesizedBelow R above [] []
  | cons {above : NodeInfo} {n m ring : Node} {ns ms : List Node} (h : Parenthesized R n m)
      (hring : Encloses (parenthesesAt above n.info.field) m ring)
      (hfield : ring.info.field = n.info.field) (hnamed : ring.info.named = n.info.named)
      (hrest : ParenthesizedBelow R above ns ms) :
      ParenthesizedBelow R above (n :: ns) (ring :: ms)

end

/-- A child, and the same child that may be in more parentheses. -/
structure Enclosed (R : NodeInfo → NodeInfo → Prop) (above : NodeInfo) (n ring : Node) : Prop where
  enclosed : ∃ m, Parenthesized R n m ∧ Encloses (parenthesesAt above n.info.field) m ring
  field : ring.info.field = n.info.field
  named : ring.info.named = n.info.named

/-- A kind of parentheses is added below three kinds of nodes only. -/
lemma of_mem_parenthesesAt {above : NodeInfo} {role : Option String} {kind : String}
    (h : kind ∈ parenthesesAt above role) : kind ∈ targetParentheses ∧
      above.kind ∈ ["decorator", "argument_list", "assignment"] := by
  unfold parenthesesAt at h
  split at h
  · rename_i hplace
    refine ⟨List.mem_cons_of_mem _ h, ?_⟩
    rcases hplace with ⟨hkind, -⟩ | ⟨hkind, -⟩
    · simp [hkind]
    · simp [hkind]
  split at h
  · rename_i hplace
    exact ⟨h, by simp [hplace.1]⟩
  · cases h

/-- Below nodes of other kinds no parentheses are added. -/
lemma parenthesesAt_eq_nil {n : Node}
    (h : n.kind ∉ ["decorator", "argument_list", "assignment"]) (role : Option String) :
    parenthesesAt n.info role = [] :=
  List.eq_nil_iff_forall_not_mem.mpr fun _ hkind => h (of_mem_parenthesesAt hkind).2

/-- Parentheses around a target are added below an assignment only, and not if it stands for base
classes. -/
lemma parenthesesAt_subset {above : NodeInfo}
    (h : above.kind ≠ "assignment" ∨ above.field = some "superclasses") (role : Option String) :
    parenthesesAt above role ⊆ expressionParentheses := by
  unfold parenthesesAt
  split
  · exact List.Subset.refl _
  split
  · rename_i hplace
    obtain ⟨hkind, hfield, -⟩ := hplace
    rcases h with h | h
    · exact absurd hkind h
    · simp [h] at hfield
  · exact List.nil_subset _

mutual

/-- A tree has the same nodes as itself. -/
theorem Parenthesized.refl {R : NodeInfo → NodeInfo → Prop} (hR : ∀ i, R i i) :
    (n : Node) → Parenthesized R n n
  | .mk i ns => .node (hR i) (ParenthesizedBelow.refl hR i ns)

/-- Children are the same as themselves. -/
theorem ParenthesizedBelow.refl {R : NodeInfo → NodeInfo → Prop} (hR : ∀ i, R i i)
    (above : NodeInfo) : (ns : List Node) → ParenthesizedBelow R above ns ns
  | [] => .nil
  | n :: ns => .cons (Parenthesized.refl hR n) .self rfl rfl (ParenthesizedBelow.refl hR above ns)

end

section Parenthesized

variable {R : NodeInfo → NodeInfo → Prop} {above : NodeInfo} {n m ring : Node}

/-- The children of two trees are the same one by one, some of them in more parentheses. -/
theorem ParenthesizedBelow.forall₂ {ns ms : List Node} :
    ParenthesizedBelow R above ns ms → List.Forall₂ (Enclosed R above) ns ms
  | .nil => .nil
  | .cons h hring hfield hnamed hrest => .cons ⟨⟨_, h, hring⟩, hfield, hnamed⟩ hrest.forall₂

/-- What is known about the two nodes is related. -/
lemma Parenthesized.info (h : Parenthesized R n m) : R n.info m.info := by
  cases h
  assumption

/-- The children of the two nodes are related in order, up to parentheses around them. -/
lemma Parenthesized.children (h : Parenthesized R n m) :
    List.Forall₂ (Enclosed R n.info) n.children m.children := by
  cases h with
  | node _ hchildren => exact hchildren.forall₂

/-- Where no parentheses are added, a child is the same. -/
lemma Enclosed.same (h : Enclosed R above n ring)
    (hnone : parenthesesAt above n.info.field = []) : Parenthesized R n ring := by
  obtain ⟨m, hm, hring⟩ := h.enclosed
  rw [hnone] at hring
  exact hring.eq_of_nil ▸ hm

/-- The named children. -/
lemma Parenthesized.namedChildren (h : Parenthesized R n m) :
    List.Forall₂ (Enclosed R n.info) n.namedChildren m.namedChildren :=
  List.rel_filter (fun _ _ hc => by simp only [hc.named]) h.children

/-- The first child with a role. -/
lemma Parenthesized.childByField? (h : Parenthesized R n m) (field : String) :
    Option.Rel (fun a b => Enclosed R n.info a b ∧ a.info.field = some field)
      (n.childByField? field) (m.childByField? field) := by
  have hfound : Option.Rel (Enclosed R n.info) (n.childByField? field) (m.childByField? field) :=
    rel_find? h.children fun _ _ hc => by rw [hc.field]
  rcases rel_cases hfound with ⟨hn, hm⟩ | ⟨a, b, ha, hb, hab⟩
  · rw [hn, hm]
    exact .none
  · rw [ha, hb]
    exact .some ⟨hab, field_of_childByField? ha⟩

/-- Where no parentheses are added around a role, the first child with it is the same. -/
lemma Parenthesized.childByField?_same (h : Parenthesized R n m) {field : String}
    (hnone : parenthesesAt n.info (some field) = []) :
    Option.Rel (fun a b => Parenthesized R a b ∧ a.info.field = some field)
      (n.childByField? field) (m.childByField? field) :=
  rel_imp (h.childByField? field) fun _ _ ⟨hab, hfield⟩ => ⟨hab.same (hfield ▸ hnone), hfield⟩

/-- Where no parentheses are added, the named children are the same. -/
lemma Parenthesized.namedChildren_same (h : Parenthesized R n m)
    (hnone : ∀ role, parenthesesAt n.info role = []) :
    List.Forall₂ (Parenthesized R) n.namedChildren m.namedChildren :=
  h.namedChildren.imp fun _ _ hc => hc.same (hnone _)

end Parenthesized

end CodeCatalog.Syntax.Node
