import Mathlib.Data.List.Find
import Mathlib.Tactic.MkIffOfInductiveProp
import CodeCatalog.Proofs.Units.WellFormed

/-!
# Syntax trees without comments

Comments may stand anywhere in a syntax tree. Any of them can be dropped from it, and what is left
has all other nodes as they were. A tree without any comments has the code of the tree for
children, each without comments in turn.

## Main definitions

* `CodeCatalog.Syntax.Node.OrderlyComments` — comments as parsers put them.
* `CodeCatalog.Syntax.Node.dropComments` — a tree without the comments at chosen positions.
* `CodeCatalog.Syntax.Node.withoutComments` — a tree without all its comments.

## Main results

* `CodeCatalog.Syntax.Node.withoutComments_dropComments` — dropping all comments undoes the choice
  of those that were dropped before.
* `CodeCatalog.Syntax.Node.childByField?_withoutComments` — the child with a role is found without
  comments.
* `CodeCatalog.Syntax.Node.Everywhere.dropComments` — comments stay orderly.
-/

namespace CodeCatalog

open Syntax

namespace Syntax.Node

/-! ## Trees without comments -/

/-- A node whose comments are as parsers put them: a comment has neither children nor a role, and
a parameter with a type does not begin with one. -/
@[mk_iff]
structure OrderlyComments (n : Node) : Prop where
  childless : n.isComment → n.children = []
  roleless : n.isComment → n.info.field = none
  parameter : n.kind = "typed_parameter" → ∀ c ∈ n.namedChildren.head?, ¬ c.isComment

mutual

/-- A tree without the comments at the chosen positions. -/
def dropComments (chosen : List Nat → Bool) : Node → Node
  | .mk info children => .mk info (dropCommentsFrom chosen 0 children)

/-- Children, numbered from `i` on, without the comments at the chosen positions. -/
def dropCommentsFrom (chosen : List Nat → Bool) (i : Nat) : List Node → List Node
  | [] => []
  | n :: ns =>
    if n.isComment && chosen [i] then dropCommentsFrom chosen (i + 1) ns
    else n.dropComments (fun pos => chosen (i :: pos)) :: dropCommentsFrom chosen (i + 1) ns

end

/-- A tree without its comments. -/
def withoutComments (n : Node) : Node := n.dropComments fun _ => true

/-- The children that are no comments. -/
def codeChildren (n : Node) : List Node := n.children.filter fun c => !c.isComment

section Drop

variable (chosen : List Nat → Bool) (n : Node)

/-- Dropping comments from a tree leaves what is known about its root. -/
@[simp] lemma info_dropComments : (n.dropComments chosen).info = n.info := by
  cases n
  rfl

/-- Dropping comments from a tree leaves the kind of its root. -/
@[simp] lemma kind_dropComments : (n.dropComments chosen).kind = n.kind := by
  rw [kind, info_dropComments, kind]

/-- Dropping comments inside a node makes it neither more nor less of a comment. -/
@[simp] lemma isComment_dropComments : (n.dropComments chosen).isComment = n.isComment := by
  rw [isComment, kind_dropComments, isComment]

/-- The children are those that are left, without comments below them. -/
lemma children_dropComments :
    (n.dropComments chosen).children = dropCommentsFrom chosen 0 n.children := by
  cases n
  rfl

/-- Without comments, the same is known about the root of a tree. -/
@[simp] lemma info_withoutComments : n.withoutComments.info = n.info :=
  info_dropComments _ n

/-- Without comments, the root of a tree is of the same kind. -/
@[simp] lemma kind_withoutComments : n.withoutComments.kind = n.kind :=
  kind_dropComments _ n

/-- A node without the comments inside it is a comment exactly if it was one. -/
@[simp] lemma isComment_withoutComments : n.withoutComments.isComment = n.isComment :=
  isComment_dropComments _ n

/-- A node without the comments inside it covers the same text. -/
@[simp] lemma text_withoutComments (source : List Char) :
    n.withoutComments.text source = n.text source := by
  rw [text, info_withoutComments, text]

end Drop

/-- Without any comments, the children are those that are no comments. -/
lemma dropCommentsFrom_true (i : Nat) (ns : List Node) :
    dropCommentsFrom (fun _ => true) i ns =
      (ns.filter fun c => !c.isComment).map withoutComments := by
  induction ns generalizing i with
  | nil => rfl
  | cons n ns ih =>
    rw [dropCommentsFrom, ih]
    by_cases hcomment : n.isComment
    · simp [hcomment]
    · simp [hcomment, withoutComments]

/-- The children of a tree without comments are those of the tree that are no comments. -/
lemma children_withoutComments (n : Node) :
    n.withoutComments.children = n.codeChildren.map withoutComments := by
  rw [withoutComments, children_dropComments, dropCommentsFrom_true, codeChildren]

mutual

/-- All comments are dropped, whichever were dropped before. -/
theorem withoutComments_dropComments (chosen : List Nat → Bool) :
    (n : Node) → (n.dropComments chosen).withoutComments = n.withoutComments
  | .mk info children => by
    have h := withoutComments_dropCommentsFrom chosen 0 children
    rw [dropComments, withoutComments, withoutComments, dropComments, dropComments,
      dropCommentsFrom_true, dropCommentsFrom_true, h]

/-- All comments among children are dropped, whichever were dropped before. -/
theorem withoutComments_dropCommentsFrom (chosen : List Nat → Bool) (i : Nat) :
    (ns : List Node) → ((dropCommentsFrom chosen i ns).filter fun c => !c.isComment).map
      withoutComments = (ns.filter fun c => !c.isComment).map withoutComments
  | [] => rfl
  | n :: ns => by
    have hn := withoutComments_dropComments (fun pos => chosen (i :: pos)) n
    have hns := withoutComments_dropCommentsFrom chosen (i + 1) ns
    rw [dropCommentsFrom]
    by_cases hcomment : n.isComment
    · by_cases hchosen : chosen [i]
      · simp [hcomment, hchosen, hns]
      · simp [hcomment, hchosen, hns]
    · simp [hcomment, hn, hns]

end

/-! ## What is found among children -/

section Access

variable (n : Node)

/-- Named children, less the comments among them. -/
lemma namedChildren_withoutComments :
    n.withoutComments.namedChildren =
      (n.namedChildren.filter fun c => !c.isComment).map withoutComments := by
  rw [namedChildren, children_withoutComments, codeChildren, namedChildren, List.filter_map,
    List.filter_filter, List.filter_filter]
  congr 2
  funext c
  simp [Bool.and_comm]

/-- Where comments have no roles, the child with a role is found without them. -/
lemma childByField?_withoutComments {n : Node} (h : n.Everywhere OrderlyComments)
    (field : String) :
    n.withoutComments.childByField? field = (n.childByField? field).map withoutComments := by
  rw [childByField?, children_withoutComments, codeChildren, List.find?_map, List.find?_filter,
    childByField?]
  refine congrArg (Option.map withoutComments) (List.find?_congr fun c hc => ?_)
  rw [Bool.eq_iff_iff]
  by_cases hcomment : c.isComment
  · simp [hcomment, ((h.of_mem_children hc) c .refl).roleless hcomment]
  · simp [hcomment]

end Access

/-! ## Dropping some comments -/

/-- If the first named child is no comment, it stays first. -/
lemma head?_dropCommentsFrom (chosen : List Nat → Bool) (i : Nat) {ns : List Node}
    (h : ∀ c ∈ (ns.filter (·.info.named)).head?, ¬ c.isComment) :
    ∀ c ∈ ((dropCommentsFrom chosen i ns).filter (·.info.named)).head?, ¬ c.isComment := by
  induction ns generalizing i with
  | nil => exact h
  | cons n ns ih =>
    rw [dropCommentsFrom]
    by_cases hnamed : n.info.named
    · have hcode : ¬ n.isComment := h n (by simp [hnamed])
      simp [hcode, hnamed]
    · have hrest := ih (i + 1) (by simpa [hnamed] using h)
      split
      · exact hrest
      · simpa [hnamed] using hrest

mutual

/-- Comments are as before when some of them are dropped. -/
theorem Everywhere.dropComments (chosen : List Nat → Bool) : (n : Node) →
    n.Everywhere OrderlyComments → (n.dropComments chosen).Everywhere OrderlyComments
  | .mk info children, h => by
    obtain ⟨⟨hchildless, hroleless, hparameter⟩, hchildren⟩ := everywhere_mk.mp h
    refine everywhere_mk.mpr ⟨⟨fun hcomment => ?_, hroleless, fun hkind => ?_⟩,
      dropCommentsFrom_everywhere chosen 0 children hchildren⟩
    · have hnil : children = [] := hchildless hcomment
      rw [hnil]
      rfl
    · exact head?_dropCommentsFrom chosen 0 (hparameter hkind)

/-- Comments below children are as before when some of them are dropped. -/
theorem dropCommentsFrom_everywhere (chosen : List Nat → Bool) (i : Nat) : (ns : List Node) →
    (∀ n ∈ ns, n.Everywhere OrderlyComments) →
      ∀ n ∈ dropCommentsFrom chosen i ns, n.Everywhere OrderlyComments
  | [], _ => List.forall_mem_nil _
  | n :: ns, h => by
    obtain ⟨hn, hns⟩ := List.forall_mem_cons.mp h
    have hrest := dropCommentsFrom_everywhere chosen (i + 1) ns hns
    rw [dropCommentsFrom]
    split
    · exact hrest
    · exact List.forall_mem_cons.mpr
        ⟨Everywhere.dropComments (fun pos => chosen (i :: pos)) n hn, hrest⟩

end

end Syntax.Node

end CodeCatalog
