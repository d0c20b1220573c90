import Mathlib.Data.List.Basic
import Mathlib.Tactic.Lemma
import CodeCatalog.Proofs.Text.Lines
import CodeCatalog.Units.Span

/-!
# Well-formed syntax trees

A syntax tree is well formed over a source if every node stands where its offsets and its places
say, inside its parent and behind the children to its left. In every tree in that order, by offsets
or by places, the last token of the code below a node, to which the end of a unit is found by
descent, lies behind the last token of everything below the node that is no comment.

## Main definitions

* `CodeCatalog.Syntax.IsAt` — an offset between two characters of a source, and its place.
* `CodeCatalog.Syntax.Node.WellFormed` — well-formed trees.
* `CodeCatalog.Syntax.Node.Within` — the nodes of a tree.
* `CodeCatalog.Syntax.Node.Everywhere` — what holds of every node of a tree.
* `CodeCatalog.Syntax.Node.InOrder` — nodes whose children stand in order, inside them.
* `CodeCatalog.lastToken` — the node at which the code below a node ends.

## Main results

* `CodeCatalog.Syntax.IsAt.exists_split` — two offsets cut a source into three parts.
* `CodeCatalog.Syntax.Node.WellFormed.inOrder` — well-formed trees are in order by offsets.
* `CodeCatalog.Syntax.Node.Everywhere.lastToken_eq_or_le` — in a tree in order, the last token is
  the last token of everything that is no comment, or behind it.
-/

namespace CodeCatalog

namespace Syntax

/-! ## Offsets and places -/

/-- The place behind characters: the line feeds among them, and the bytes since the last one. -/
def Point.behind (before : List Char) : Point where
  row := before.count '\n'
  column := Text.byteSize (before.reverse.takeWhile (· ≠ '\n'))

/-- In one row, columns count the bytes. -/
lemma Point.column_behind_append (before : List Char) {piece : List Char} (h : '\n' ∉ piece) :
    (Point.behind (before ++ piece)).column =
      Text.byteSize piece.reverse + (Point.behind before).column := by
  have hall : ∀ x ∈ piece.reverse, decide (x ≠ '\n') = true := by
    intro x hx
    rw [decide_eq_true_eq]
    rintro rfl
    exact h (List.mem_reverse.mp hx)
  rw [Point.behind, List.reverse_append, List.takeWhile_append_of_pos hall, Text.byteSize_append,
    Point.behind]

/-- Whether an offset lies between two characters of a source, at a place. -/
def IsAt (source : List Char) (byte : Nat) (point : Point) : Prop :=
  Text.byteSize (Text.takeBytes byte source) = byte ∧
    point = Point.behind (Text.takeBytes byte source)

instance (source : List Char) (byte : Nat) (point : Point) : Decidable (IsAt source byte point) :=
  inferInstanceAs (Decidable (_ ∧ _))

/-- **Two offsets cut a source into three parts**: what stands before both, between them, and
behind both. -/
lemma IsAt.exists_split {source : List Char} {start stop : Nat} {startPoint stopPoint : Point}
    (hstart : IsAt source start startPoint) (hstop : IsAt source stop stopPoint)
    (hle : start ≤ stop) :
    ∃ before piece rest, source = before ++ (piece ++ rest) ∧
      (Text.between source start stop).toList = piece ∧
      startPoint = Point.behind before ∧ stopPoint = Point.behind (before ++ piece) := by
  obtain ⟨hstartSize, hstartPoint⟩ := hstart
  obtain ⟨hstopSize, hstopPoint⟩ := hstop
  obtain ⟨piece, hpiece⟩ := Text.isPrefix_of_byteSize_le (Text.takeBytes_isPrefix start source)
    (Text.takeBytes_isPrefix stop source) (by rw [hstartSize, hstopSize]; exact hle)
  obtain ⟨rest, hrest⟩ := Text.takeBytes_isPrefix stop source
  set before := Text.takeBytes start source
  rw [← hpiece] at hstopSize hstopPoint hrest
  rw [List.append_assoc] at hrest
  refine ⟨before, piece, rest, hrest.symm, ?_, hstartPoint, hstopPoint⟩
  have hbetween := Text.toList_between before piece rest
  rwa [hrest, hstartSize, hstopSize] at hbetween

/-- What stands between two offsets of a text stands there with more behind the text. -/
lemma IsAt.between_append {front : List Char} {start stop : Nat} {startPoint stopPoint : Point}
    (hstart : IsAt front start startPoint) (hstop : IsAt front stop stopPoint)
    (hle : start ≤ stop) (back : List Char) :
    Text.between (front ++ back) start stop = Text.between front start stop := by
  obtain ⟨piece, hpiece⟩ := Text.isPrefix_of_byteSize_le (Text.takeBytes_isPrefix start front)
    (Text.takeBytes_isPrefix stop front) (by rw [hstart.1, hstop.1]; exact hle)
  obtain ⟨rest, hrest⟩ := Text.takeBytes_isPrefix stop front
  have hstopSize := hstop.1
  rw [← hpiece] at hrest hstopSize
  have hbetween (more : List Char) :
      (Text.between (front ++ more) start stop).toList = piece := by
    have h := Text.toList_between (Text.takeBytes start front) piece (rest ++ more)
    rwa [← List.append_assoc piece, ← List.append_assoc, ← List.append_assoc, hrest, hstart.1,
      hstopSize] at h
  have hnone := hbetween []
  rw [List.append_nil] at hnone
  exact String.toList_inj.mp ((hbetween back).trans hnone.symm)

/-- A later offset is not in an earlier row. -/
lemma IsAt.row_le {source : List Char} {start stop : Nat} {startPoint stopPoint : Point}
    (hstart : IsAt source start startPoint) (hstop : IsAt source stop stopPoint)
    (hle : start ≤ stop) : startPoint.row ≤ stopPoint.row := by
  obtain ⟨before, piece, rest, -, -, rfl, rfl⟩ := hstart.exists_split hstop hle
  simp only [Point.behind, List.count_append]
  omega

/-! ## Trees over a source -/

/-- A node that stands where it says. -/
structure NodeInfo.Stands (source : List Char) (i : NodeInfo) : Prop where
  order : i.startByte ≤ i.endByte
  start : IsAt source i.startByte i.start
  stop : IsAt source i.endByte i.stop

namespace Node

/-- Whether a node is the definition of a function or a class. -/
def isDefinition (n : Node) : Bool :=
  n.kind == "function_definition" || n.kind == "class_definition"

/-- Comments are told by their kind. -/
lemma isComment_iff {n : Node} : n.isComment ↔ n.kind = "comment" := by
  rw [isComment, beq_iff_eq]

/-- A named child is a child. -/
lemma mem_children_of_mem_namedChildren {n c : Node} (h : c ∈ n.namedChildren) : c ∈ n.children :=
  (List.mem_filter.mp h).1

/-- The first child with a role has the role. -/
lemma field_of_childByField? {n c : Node} {field : String} (h : n.childByField? field = some c) :
    c.info.field = some field := by
  simpa using List.find?_some h

/-- A node whose children are where they belong. -/
structure Arranged (n : Node) : Prop where
  /-- No child begins before the ones to its left end. -/
  ordered : n.children.Pairwise fun a b => a.info.endByte ≤ b.info.startByte
  inside : ∀ c ∈ n.children,
    n.info.startByte ≤ c.info.startByte ∧ c.info.endByte ≤ n.info.endByte
  comment : n.isComment → n.children = []
  /-- The name of a definition stands before its body. -/
  name : n.isDefinition → ∀ name ∈ n.childByField? "name", ∀ body ∈ n.childByField? "body",
    name.info.endByte ≤ body.info.startByte

/-- A tree that is well formed over a source. -/
inductive WellFormed (source : List Char) : Node → Prop
  | intro {n : Node} (stands : n.info.Stands source) (arranged : n.Arranged)
      (below : ∀ c ∈ n.children, WellFormed source c) : WellFormed source n

section WellFormed

variable {source : List Char} {n : Node}

/-- The root of a well-formed tree stands in the source. -/
lemma WellFormed.stands (h : n.WellFormed source) : n.info.Stands source := by
  cases h
  assumption

/-- The children of the root of a well-formed tree are arranged inside it. -/
lemma WellFormed.arranged (h : n.WellFormed source) : n.Arranged := by
  cases h
  assumption

/-- The children of a well-formed tree are well-formed. -/
lemma WellFormed.of_mem_children (h : n.WellFormed source) {c : Node} (hc : c ∈ n.children) :
    c.WellFormed source := by
  cases h with
  | intro _ _ below => exact below c hc

instance (i : NodeInfo) : Decidable (i.Stands source) :=
  decidable_of_iff (i.startByte ≤ i.endByte ∧ IsAt source i.startByte i.start ∧
      IsAt source i.endByte i.stop)
    ⟨fun ⟨order, start, stop⟩ => ⟨order, start, stop⟩, fun h => ⟨h.order, h.start, h.stop⟩⟩

instance (n : Node) : Decidable n.Arranged :=
  decidable_of_iff (n.children.Pairwise (fun a b => a.info.endByte ≤ b.info.startByte) ∧
      (∀ c ∈ n.children,
        n.info.startByte ≤ c.info.startByte ∧ c.info.endByte ≤ n.info.endByte) ∧
      (n.isComment → n.children = []) ∧
      (n.isDefinition → ∀ name ∈ n.childByField? "name", ∀ body ∈ n.childByField? "body",
        name.info.endByte ≤ body.info.startByte))
    ⟨fun ⟨ordered, inside, comment, name⟩ => ⟨ordered, inside, comment, name⟩,
      fun h => ⟨h.ordered, h.inside, h.comment, h.name⟩⟩

mutual

/-- Well-formedness can be checked. -/
def decideWellFormed (source : List Char) : (n : Node) → Decidable (n.WellFormed source)
  | .mk i cs =>
    have := decideWellFormedAll source cs
    decidable_of_iff (i.Stands source ∧ (Node.mk i cs).Arranged ∧ ∀ c ∈ cs, c.WellFormed source)
      ⟨fun ⟨stands, arranged, below⟩ => .intro stands arranged below,
        fun h => ⟨h.stands, h.arranged, fun _ hc => h.of_mem_children hc⟩⟩

/-- Well-formedness of several trees can be checked. -/
def decideWellFormedAll (source : List Char) :
    (ns : List Node) → Decidable (∀ n ∈ ns, n.WellFormed source)
  | [] => isTrue fun _ h => nomatch h
  | n :: ns =>
    have := decideWellFormed source n
    have := decideWellFormedAll source ns
    decidable_of_iff (n.WellFormed source ∧ ∀ m ∈ ns, m.WellFormed source)
      List.forall_mem_cons.symm

end

instance (n : Node) : Decidable (n.WellFormed source) := decideWellFormed source n

/-- The nodes of a tree. -/
inductive Within (d : Node) : Node → Prop
  | refl : Within d d
  | child {n c : Node} (hc : c ∈ n.children) (h : Within d c) : Within d n

/-- What stands within a part of a tree stands within the tree. -/
lemma Within.trans {d m : Node} (hd : d.Within m) (hm : m.Within n) : d.Within n := by
  induction hm with
  | refl => exact hd
  | child hc _ ih => exact .child hc ih

/-- Every node of a well-formed tree is the root of one. -/
lemma WellFormed.of_within (h : n.WellFormed source) {d : Node} (hd : d.Within n) :
    d.WellFormed source := by
  induction hd with
  | refl => exact h
  | child hc _ ih => exact ih (h.of_mem_children hc)

end WellFormed

/-! ## Trees in order -/

/-- Whether something holds of every node of a tree. -/
def Everywhere (P : Node → Prop) (n : Node) : Prop := ∀ d, d.Within n → P d

/-- A property holds everywhere in a tree if it holds of the root and everywhere in the children. -/
lemma everywhere_mk {P : Node → Prop} {info : NodeInfo} {children : List Node} :
    (Node.mk info children).Everywhere P ↔
      P (.mk info children) ∧ ∀ c ∈ children, c.Everywhere P := by
  constructor
  · intro h
    exact ⟨h _ .refl, fun c hc d hd => h d (.child hc hd)⟩
  · rintro ⟨hn, hchildren⟩ d hd
    cases hd with
    | refl => exact hn
    | child hc hd => exact hchildren _ hc d hd

/-- What holds everywhere in a tree holds everywhere in its parts. -/
lemma Everywhere.of_within {P : Node → Prop} {n d : Node} (h : n.Everywhere P)
    (hd : d.Within n) : d.Everywhere P :=
  fun _ hinside => h _ (hinside.trans hd)

/-- What holds everywhere in a tree holds everywhere in its children. -/
lemma Everywhere.of_mem_children {P : Node → Prop} {n c : Node} (h : n.Everywhere P)
    (hc : c ∈ n.children) : c.Everywhere P :=
  h.of_within (.child hc .refl)

mutual

/-- What holds of every node of a tree can be checked node by node. -/
def decideEverywhere (P : Node → Prop) [DecidablePred P] : (n : Node) → Decidable (n.Everywhere P)
  | .mk info children =>
    have := decideEverywhereAll P children
    decidable_of_iff (P (.mk info children) ∧ ∀ c ∈ children, c.Everywhere P) everywhere_mk.symm

/-- What holds of every node of several trees can be checked tree by tree. -/
def decideEverywhereAll (P : Node → Prop) [DecidablePred P] :
    (ns : List Node) → Decidable (∀ n ∈ ns, n.Everywhere P)
  | [] => isTrue fun _ h => nomatch h
  | n :: ns =>
    have := decideEverywhere P n
    have := decideEverywhereAll P ns
    decidable_of_iff (n.Everywhere P ∧ ∀ m ∈ ns, m.Everywhere P) List.forall_mem_cons.symm

end

instance (P : Node → Prop) [DecidablePred P] (n : Node) : Decidable (n.Everywhere P) :=
  decideEverywhere P n

/-- A node whose children stand one behind the other and inside it, by a begin and an end of each
node, and that has no children if it is a comment. -/
structure InOrder {α : Type} [LE α] (start stop : Node → α) (n : Node) : Prop where
  order : start n ≤ stop n
  ordered : n.children.Pairwise fun a b => stop a ≤ start b
  inside : ∀ c ∈ n.children, start n ≤ start c ∧ stop c ≤ stop n
  comment : n.isComment → n.children = []

section InOrder

variable {α : Type} [Preorder α] {start stop : Node → α} {n d : Node}

/-- The nodes of a tree in order are inside it. -/
lemma Everywhere.inside (h : n.Everywhere (InOrder start stop)) (hd : d.Within n) :
    start n ≤ start d ∧ stop d ≤ stop n := by
  induction hd with
  | refl => exact ⟨le_rfl, le_rfl⟩
  | child hc _ ih =>
    obtain ⟨hstart, hstop⟩ := ih (h.of_mem_children hc)
    obtain ⟨hcstart, hcstop⟩ := (h _ .refl).inside _ hc
    exact ⟨hcstart.trans hstart, hstop.trans hcstop⟩

/-- A node above a node that is no comment is no comment, since comments have no children. -/
lemma Everywhere.not_isComment_of_within (h : n.Everywhere (InOrder start stop))
    (hd : d.Within n) (hcode : ¬ d.isComment) : ¬ n.isComment := by
  intro hcomment
  cases hd with
  | refl => exact hcode hcomment
  | child hc _ =>
    rw [(h n .refl).comment hcomment] at hc
    cases hc

end InOrder

/-- A well-formed tree is in order by its offsets. -/
lemma WellFormed.inOrder {source : List Char} {n : Node} (h : n.WellFormed source) :
    n.Everywhere (InOrder (·.info.startByte) (·.info.endByte)) := by
  intro d hd
  have hwf := h.of_within hd
  exact ⟨hwf.stands.order, hwf.arranged.ordered, hwf.arranged.inside, hwf.arranged.comment⟩

/-- Every node of a well-formed tree is the root of one, inside the tree. -/
lemma WellFormed.within {source : List Char} {n d : Node} (h : n.WellFormed source)
    (hd : d.Within n) :
    d.WellFormed source ∧ n.info.startByte ≤ d.info.startByte ∧ d.info.endByte ≤ n.info.endByte :=
  ⟨h.of_within hd, h.inOrder.inside hd⟩

end Node

end Syntax

open Syntax

/-! ## The last token -/

/-- The node at which the code below a node ends. -/
def lastToken (n : Node) : Node :=
  match _h : lastCodeChild? n with
  | some c => lastToken c
  | none => n
termination_by n.size
decreasing_by exact Node.size_lt_of_mem_children (mem_children_of_lastCodeChild? _h)

/-- The last token of a node is that of its last child that is no comment. -/
lemma lastToken_of_lastCodeChild? {n c : Node} (h : lastCodeChild? n = some c) :
    lastToken n = lastToken c := by
  rw [lastToken]
  split
  · rename_i c' hc'
    rw [h] at hc'
    cases hc'
    rfl
  · rename_i hnone
    rw [h] at hnone
    cases hnone

/-- A node without such a child is its own last token. -/
lemma lastToken_of_lastCodeChild?_eq_none {n : Node} (h : lastCodeChild? n = none) :
    lastToken n = n := by
  rw [lastToken]
  split
  · rename_i c hc
    rw [h] at hc
    cases hc
  · rfl

/-- The code below a node ends where the last token ends. -/
lemma codeEnd_eq (n : Node) : codeEnd n = (lastToken n).info.stop := by
  fun_induction lastToken n with
  | case1 n c hc ih =>
    rw [codeEnd]
    split
    · rename_i c' hc'
      rw [hc] at hc'
      cases hc'
      exact ih
    · rename_i hnone
      rw [hc] at hnone
      cases hnone
  | case2 n hnone =>
    rw [codeEnd]
    split
    · rename_i c hc
      rw [hnone] at hc
      cases hc
    · rfl

/-- The last token is a node of the tree. -/
lemma lastToken_within (n : Node) : (lastToken n).Within n := by
  fun_induction lastToken n with
  | case1 n c hc ih => exact .child (mem_children_of_lastCodeChild? hc) ih
  | case2 n hnone => exact .refl

/-- A child that a search from the right accepts is the one it finds or stands to its left. -/
lemma eq_or_rel_of_find?_reverse {n c last : Node} {P : Node → Bool} {R : Node → Node → Prop}
    (hordered : n.children.Pairwise R) (hlast : n.children.reverse.find? P = some last)
    (hc : c ∈ n.children) (haccepted : P c) : c = last ∨ R c last := by
  obtain ⟨-, right, left, hsplit, hright⟩ := List.find?_eq_some_iff_append.mp hlast
  have hchildren : n.children = left.reverse ++ last :: right.reverse := by
    rw [← List.reverse_reverse n.children, hsplit]
    simp
  rw [hchildren] at hc hordered
  rcases List.mem_append.mp hc with hleft | hc
  · exact Or.inr ((List.pairwise_append.mp hordered).2.2 c hleft last List.mem_cons_self)
  · rcases List.mem_cons.mp hc with rfl | hr
    · exact Or.inl rfl
    · have := hright c (List.mem_reverse.mp hr)
      simp [haccepted] at this

/-- If a search from the right accepts a child, it finds one. -/
lemma exists_find?_reverse {n c : Node} {P : Node → Bool} (hc : c ∈ n.children)
    (haccepted : P c) : ∃ last, n.children.reverse.find? P = some last := by
  rw [← Option.isSome_iff_exists, List.find?_isSome]
  exact ⟨c, List.mem_reverse.mpr hc, haccepted⟩

/-- If a child is no comment, there is a last such child. -/
lemma exists_lastCodeChild? {n c : Node} (hc : c ∈ n.children) (hcode : ¬ c.isComment) :
    ∃ last, lastCodeChild? n = some last :=
  exists_find?_reverse hc (by simp [hcode])

namespace Syntax.Node

section InOrder

variable {α : Type} [Preorder α] {start stop : Node → α} {n d : Node}

/-- **The last token is that of everything that is no comment** below its node, or behind it.

**Proof sketch.** Induction along the way down to the other node. The child on that way is no
comment. If it is the last child that is no comment, the last token is below it too. Otherwise it
ends before that child begins. -/
lemma Everywhere.lastToken_eq_or_le (h : n.Everywhere (InOrder start stop)) (hd : d.Within n)
    (hcode : ¬ d.isComment) :
    lastToken d = lastToken n ∨ stop (lastToken d) ≤ start (lastToken n) := by
  induction hd with
  | refl => exact Or.inl rfl
  | @child n c hc hd ih =>
    have hcorder := h.of_mem_children hc
    have hccode := hcorder.not_isComment_of_within hd hcode
    obtain ⟨last, hlast⟩ := exists_lastCodeChild? hc hccode
    rw [lastToken_of_lastCodeChild? hlast]
    rcases eq_or_rel_of_find?_reverse (h n .refl).ordered hlast hc (by simp [hccode]) with
      rfl | hle
    · exact ih hcorder
    · have hlastorder := h.of_mem_children (mem_children_of_lastCodeChild? hlast)
      have htoken := hcorder.inside ((lastToken_within d).trans hd)
      exact Or.inr ((htoken.2.trans hle).trans (hlastorder.inside (lastToken_within last)).1)

/-- The last token ends behind everything that is no comment. -/
lemma Everywhere.stop_lastToken_le (h : n.Everywhere (InOrder start stop)) (hd : d.Within n)
    (hcode : ¬ d.isComment) : stop (lastToken d) ≤ stop (lastToken n) := by
  rcases h.lastToken_eq_or_le hd hcode with heq | hle
  · rw [heq]
  · exact hle.trans (h _ (lastToken_within n)).order

end InOrder

section WellFormed

variable {source : List Char} {n : Node}

/-- The last token is inside the node. -/
lemma WellFormed.lastToken_inside (h : n.WellFormed source) :
    (lastToken n).WellFormed source ∧ n.info.startByte ≤ (lastToken n).info.startByte ∧
      (lastToken n).info.endByte ≤ n.info.endByte :=
  h.within (lastToken_within n)

/-- The last token ends behind the begin of its node. -/
lemma WellFormed.startByte_le_lastToken (h : n.WellFormed source) :
    n.info.startByte ≤ (lastToken n).info.endByte := by
  obtain ⟨hwf, hstart, -⟩ := h.lastToken_inside
  exact Nat.le_trans hstart hwf.stands.order

/-- The last token ends behind the begin of everything that is no comment below its node. -/
lemma WellFormed.startByte_le_endByte_lastToken (h : n.WellFormed source) {d : Node}
    (hd : d.Within n) (hcode : ¬ d.isComment) :
    d.info.startByte ≤ (lastToken n).info.endByte :=
  Nat.le_trans (h.within hd).1.startByte_le_lastToken (h.inOrder.stop_lastToken_le hd hcode)

end WellFormed

end Syntax.Node

end CodeCatalog
