import Mathlib.Data.List.Forall2
import CodeCatalog.Proofs.Syntax.Comments

/-!
# Syntax trees without some extras

An extra is a node that a grammar allows between any two children of a node. Extras of one kind can
be dropped from a tree at chosen positions. The tree that is left is compared with the tree as it
was node by node: what is asked of a node finds the node that is left of it.

## Main definitions

* `CodeCatalog.Syntax.Node.OrderlyExtras` — extras as parsers put them.
* `CodeCatalog.Syntax.Node.dropExtras` — a tree without the extras at chosen positions.
* `CodeCatalog.Syntax.Node.Sheds` — a tree and what is left of it.
* `CodeCatalog.Syntax.Node.Thins` — a list and what is left of its members.

## Main results

* `CodeCatalog.Syntax.Node.sheds_dropExtras` — dropping extras leaves such a tree.
* `CodeCatalog.Syntax.Node.Sheds.forall₂_filter` — children that are chosen by a property that no
  extra has correspond one to one.
* `CodeCatalog.Syntax.Node.Sheds.childByField?` — so does the child with a role.
-/

namespace CodeCatalog.Syntax.Node

/-! ## Related lists -/

section Related

variable {α β : Type} {R : α → β → Prop} {xs : List α} {ys : List β}

/-- The first members of related lists are related. -/
lemma rel_head? (h : List.Forall₂ R xs ys) : Option.Rel R xs.head? ys.head? := by
  cases h with
  | nil => exact .none
  | cons hfirst _ => exact .some hfirst

/-- The first members with a property that related members share are related. -/
lemma rel_find? {p : α → Bool} {q : β → Bool} (h : List.Forall₂ R xs ys)
    (hpq : ∀ x y, R x y → q y = p x) : Option.Rel R (xs.find? p) (ys.find? q) := by
  rw [← List.head?_filter, ← List.head?_filter]
  exact rel_head? (List.rel_filter (fun x y hxy => by simp only [hpq x y hxy]) h)

/-- Two optional values that are related are both missing or both there. -/
lemma rel_cases {x : Option α} {y : Option β} (h : Option.Rel R x y) :
    (x = none ∧ y = none) ∨ ∃ a b, x = some a ∧ y = some b ∧ R a b := by
  cases h with
  | none => exact Or.inl ⟨rfl, rfl⟩
  | some hab => exact Or.inr ⟨_, _, rfl, rfl, hab⟩

/-- Optional values that are related are so by any weaker relation. -/
lemma rel_imp {S : α → β → Prop} {x : Option α} {y : Option β} (h : Option.Rel R x y)
    (himp : ∀ a b, R a b → S a b) : Option.Rel S x y := by
  cases h with
  | none => exact .none
  | some hab => exact .some (himp _ _ hab)

/-- Each member of the second of two related lists is related to one of the first. -/
lemma exists_rel_of_mem_right (h : List.Forall₂ R xs ys) {y : β} (hy : y ∈ ys) :
    ∃ x ∈ xs, R x y := by
  induction h with
  | nil => cases hy
  | cons hfirst _ ih =>
    rcases List.mem_cons.mp hy with rfl | hy
    · exact ⟨_, List.mem_cons_self, hfirst⟩
    · obtain ⟨x, hx, hR⟩ := ih hy
      exact ⟨x, List.mem_cons_of_mem _ hx, hR⟩

/-- Each member of the first of two related lists is related to one of the second. -/
lemma exists_rel_of_mem_left (h : List.Forall₂ R xs ys) {x : α} (hx : x ∈ xs) :
    ∃ y ∈ ys, R x y :=
  exists_rel_of_mem_right (R := flip R) h.flip hx

/-- Related members of two lists are members of them. -/
lemma forall₂_mem (h : List.Forall₂ R xs ys) :
    List.Forall₂ (fun x y => x ∈ xs ∧ y ∈ ys ∧ R x y) xs ys := by
  have hright : List.Forall₂ (fun y x => y ∈ ys ∧ R x y) ys xs :=
    (List.forall₂_and_left ys xs).mpr ⟨fun _ hy => hy, h.flip⟩
  exact (List.forall₂_and_left xs ys).mpr ⟨fun _ hx => hx, hright.flip⟩

/-- If every member of a list gives the same as the related one, so do all of them. -/
lemma flatMap_eq_of_forall₂ {γ : Type} {f : α → List γ} {g : β → List γ} (h : List.Forall₂ R xs ys)
    (heq : ∀ x ∈ xs, ∀ y, R x y → g y = f x) : ys.flatMap g = xs.flatMap f := by
  induction h with
  | nil => rfl
  | cons hfirst _ ih =>
    obtain ⟨hhead, htail⟩ := List.forall_mem_cons.mp heq
    rw [List.flatMap_cons, List.flatMap_cons, hhead _ hfirst, ih htail]

/-- If every member of a list gives the same value as the related one, or both give none, then all
of them give the same values. -/
lemma filterMap_eq_of_forall₂ {γ : Type} {f : α → Option γ} {g : β → Option γ}
    (h : List.Forall₂ R xs ys) (heq : ∀ x ∈ xs, ∀ y, R x y → g y = f x) :
    ys.filterMap g = xs.filterMap f := by
  rw [List.filterMap_eq_flatMap_toList, List.filterMap_eq_flatMap_toList]
  exact flatMap_eq_of_forall₂ h fun x hx y hR => by rw [heq x hx y hR]

/-- If every member of a list gives no more than the related one, so do all of them. -/
lemma length_flatMap_le {γ : Type} {f : α → List γ} {g : β → List γ} (h : List.Forall₂ R xs ys)
    (hlength : ∀ x y, R x y → (f x).length ≤ (g y).length) :
    (xs.flatMap f).length ≤ (ys.flatMap g).length := by
  induction h with
  | nil => exact Nat.le_refl 0
  | cons hfirst _ ih =>
    rw [List.flatMap_cons, List.flatMap_cons, List.length_append, List.length_append]
    exact Nat.add_le_add (hlength _ _ hfirst) ih

/-- If every member of a list gives no more than the related one, and all together give the same,
then each gives the same as the related one. -/
lemma exists_eq_of_flatMap_eq {γ : Type} {f : α → List γ} {g : β → List γ}
    (h : List.Forall₂ R xs ys) (hlength : ∀ x y, R x y → (f x).length ≤ (g y).length)
    (heq : ys.flatMap g = xs.flatMap f) {x : α} (hx : x ∈ xs) : ∃ y, R x y ∧ g y = f x := by
  induction h with
  | nil => cases hx
  | @cons a b xs ys hfirst hrest ih =>
    rw [List.flatMap_cons, List.flatMap_cons] at heq
    have htotal := congrArg List.length heq
    rw [List.length_append, List.length_append] at htotal
    have hhead := hlength _ _ hfirst
    have htail := length_flatMap_le hrest hlength
    obtain ⟨hsame, hsames⟩ := List.append_inj heq (by omega)
    rcases List.mem_cons.mp hx with rfl | hx
    · exact ⟨b, hfirst, hsame⟩
    · exact ih hsames hx

end Related

/-! ## Dropping extras -/

/-- A node whose extras of a kind are as parsers put them: an extra has neither children nor a
role, and a parameter with a type does not begin with one. -/
@[mk_iff]
structure OrderlyExtras (kind : String) (n : Node) : Prop where
  childless : n.kind = kind → n.children = []
  roleless : n.kind = kind → n.info.field = none
  parameter : n.kind = "typed_parameter" → ∀ c ∈ n.namedChildren.head?, c.kind ≠ kind

mutual

/-- A tree without the extras of a kind at the chosen positions. -/
def dropExtras (kind : String) (chosen : List Nat → Bool) : Node → Node
  | .mk info children => .mk info (dropExtrasFrom kind chosen 0 children)

/-- Children, numbered from `i` on, without the extras of a kind at the chosen positions. -/
def dropExtrasFrom (kind : String) (chosen : List Nat → Bool) (i : Nat) : List Node → List Node
  | [] => []
  | n :: ns =>
    if n.kind == kind && chosen [i] then dropExtrasFrom kind chosen (i + 1) ns
    else n.dropExtras kind (fun pos => chosen (i :: pos)) :: dropExtrasFrom kind chosen (i + 1) ns

end

/-- Dropping extras from a tree leaves what is known about its root. -/
lemma info_dropExtras (kind : String) (chosen : List Nat → Bool) (n : Node) :
    (n.dropExtras kind chosen).info = n.info := by
  cases n
  rfl

/-- The children are those that are left, without the extras below them. -/
lemma children_dropExtras (kind : String) (chosen : List Nat → Bool) (n : Node) :
    (n.dropExtras kind chosen).children = dropExtrasFrom kind chosen 0 n.children := by
  cases n
  rfl

mutual

/-- No node below a tree without all its extras is an extra. -/
theorem everywhere_dropExtras (kind : String) : (n : Node) →
    (n.dropExtras kind fun _ => true).Everywhere fun m => ∀ c ∈ m.children, c.kind ≠ kind
  | .mk info children => by
    have h := everywhere_dropExtrasFrom kind 0 children
    exact everywhere_mk.mpr ⟨fun c hc => (h c hc).1, fun c hc => (h c hc).2⟩

/-- No node among and below children without all extras is an extra. -/
theorem everywhere_dropExtrasFrom (kind : String) (i : Nat) : (ns : List Node) →
    ∀ n ∈ dropExtrasFrom kind (fun _ => true) i ns, n.kind ≠ kind ∧
      n.Everywhere fun m => ∀ c ∈ m.children, c.kind ≠ kind
  | [] => List.forall_mem_nil _
  | n :: ns => by
    have hn := everywhere_dropExtras kind n
    have hns := everywhere_dropExtrasFrom kind (i + 1) ns
    rw [dropExtrasFrom]
    by_cases hkind : n.kind = kind
    · simpa [hkind] using hns
    · simp only [hkind, beq_iff_eq, Bool.and_true, if_false]
      refine List.forall_mem_cons.mpr ⟨⟨?_, hn⟩, hns⟩
      rwa [Node.kind, info_dropExtras]

end

/-! ## What is left of a tree -/

/-- A tree with orderly extras, and what is left of it without some of them. Something may be known
of every node that is left. -/
structure Sheds (kind : String) (P : Node → Prop) (n m : Node) : Prop where
  dropped : ∃ chosen, n.dropExtras kind chosen = m
  orderly : n.Everywhere (OrderlyExtras kind)
  left : m.Everywhere P

/-- A list of nodes, and what is left of its members without some extras among them. -/
inductive Thins (kind : String) (R : Node → Node → Prop) : List Node → List Node → Prop
  | nil : Thins kind R [] []
  | dropped {n : Node} {ns ms : List Node} (hkind : n.kind = kind) (h : Thins kind R ns ms) :
      Thins kind R (n :: ns) ms
  | kept {n m : Node} {ns ms : List Node} (hleft : R n m) (h : Thins kind R ns ms) :
      Thins kind R (n :: ns) (m :: ms)

/-- Dropping extras from a tree leaves a tree that is shed. -/
lemma sheds_dropExtras {kind : String} {P : Node → Prop} {n : Node} (chosen : List Nat → Bool)
    (horderly : n.Everywhere (OrderlyExtras kind))
    (hleft : (n.dropExtras kind chosen).Everywhere P) :
    Sheds kind P n (n.dropExtras kind chosen) :=
  ⟨⟨chosen, rfl⟩, horderly, hleft⟩

section Sheds

variable {kind : String} {P : Node → Prop} {n m : Node}

/-- Shedding leaves what is known about a node. -/
lemma Sheds.info_eq (h : Sheds kind P n m) : m.info = n.info := by
  obtain ⟨chosen, rfl⟩ := h.dropped
  exact info_dropExtras kind chosen n

/-- Shedding leaves the kind of a node. -/
lemma Sheds.kind_eq (h : Sheds kind P n m) : m.kind = n.kind := by
  rw [Node.kind, h.info_eq, Node.kind]

/-- Shedding leaves the text of a node. -/
lemma Sheds.text_eq (h : Sheds kind P n m) (source : List Char) :
    m.text source = n.text source := by
  rw [Node.text, h.info_eq, Node.text]

/-- What is left of the children of a node are the children of what is left of it. -/
lemma Sheds.children (h : Sheds kind P n m) :
    Thins kind (Sheds kind P) n.children m.children := by
  obtain ⟨⟨chosen, rfl⟩, horderly, hleft⟩ := h
  have hfrom : ∀ (i : Nat) (ns : List Node), (∀ c ∈ ns, c.Everywhere (OrderlyExtras kind)) →
      (∀ c ∈ dropExtrasFrom kind chosen i ns, c.Everywhere P) →
        Thins kind (Sheds kind P) ns (dropExtrasFrom kind chosen i ns) := by
    intro i ns horderly hleft
    induction ns generalizing i with
    | nil => exact .nil
    | cons c cs ih =>
      obtain ⟨hc, hcs⟩ := List.forall_mem_cons.mp horderly
      rw [dropExtrasFrom] at hleft ⊢
      split at hleft
      · rename_i hdropped
        rw [if_pos hdropped]
        have hkind : c.kind = kind := by simpa using (Bool.and_eq_true_iff.mp hdropped).1
        exact .dropped hkind (ih (i + 1) hcs hleft)
      · rename_i hkept
        rw [if_neg hkept]
        obtain ⟨hcLeft, hcsLeft⟩ := List.forall_mem_cons.mp hleft
        exact .kept (sheds_dropExtras _ hc hcLeft) (ih (i + 1) hcs hcsLeft)
  rw [children_dropExtras]
  refine hfrom 0 n.children (fun c hc => horderly.of_mem_children hc) fun c hc => ?_
  exact hleft.of_mem_children (by rwa [children_dropExtras])

end Sheds

/-! ## What is found among children -/

section Thins

variable {kind : String} {P : Node → Prop} {ns ms : List Node} {n m : Node}

/-- Members with a property are left of members with it. -/
lemma Thins.filter (h : Thins kind (Sheds kind P) ns ms) (keep : NodeInfo → Bool) :
    Thins kind (Sheds kind P) (ns.filter (keep ·.info)) (ms.filter (keep ·.info)) := by
  induction h with
  | nil => exact .nil
  | @dropped n ns ms hkind _ ih =>
    rw [List.filter_cons]
    split
    · exact .dropped hkind ih
    · exact ih
  | @kept n m ns ms hleft _ ih =>
    rw [List.filter_cons, List.filter_cons, hleft.info_eq]
    split
    · exact .kept hleft ih
    · exact ih

/-- Without extras among them, all members are left. -/
lemma Thins.forall₂ {R : Node → Node → Prop} (h : Thins kind R ns ms)
    (hkinds : ∀ n ∈ ns, n.kind ≠ kind) : List.Forall₂ R ns ms := by
  induction h with
  | nil => exact .nil
  | dropped hkind _ _ => exact absurd hkind (hkinds _ List.mem_cons_self)
  | kept hleft _ ih => exact .cons hleft (ih fun n hn => hkinds n (List.mem_cons_of_mem _ hn))

/-- A first member that is no extra is left in front. -/
lemma Thins.head? {R : Node → Node → Prop} (h : Thins kind R ns ms)
    (hfirst : ∀ n ∈ ns.head?, n.kind ≠ kind) : Option.Rel R ns.head? ms.head? := by
  cases h with
  | nil => exact .none
  | dropped hkind _ => exact absurd hkind (hfirst _ rfl)
  | kept hleft _ => exact .some hleft

/-- What is left is left of a member. -/
lemma Thins.exists_of_mem {R : Node → Node → Prop} (h : Thins kind R ns ms) (hm : m ∈ ms) :
    ∃ n ∈ ns, R n m := by
  induction h with
  | nil => cases hm
  | dropped _ _ ih =>
    obtain ⟨n, hn, hleft⟩ := ih hm
    exact ⟨n, List.mem_cons_of_mem _ hn, hleft⟩
  | kept hleft _ ih =>
    rcases List.mem_cons.mp hm with rfl | hm
    · exact ⟨_, List.mem_cons_self, hleft⟩
    · obtain ⟨n, hn, hleft⟩ := ih hm
      exact ⟨n, List.mem_cons_of_mem _ hn, hleft⟩

/-- The named children of what is left of a node. -/
lemma Sheds.namedChildren (h : Sheds kind P n m) :
    Thins kind (Sheds kind P) n.namedChildren m.namedChildren :=
  h.children.filter (·.named)

/-- **Children with a property that no extra has** correspond to those of what is left. -/
lemma Sheds.forall₂_filter (h : Sheds kind P n m) (keep : NodeInfo → Bool)
    (hextra : ∀ c ∈ n.children, c.kind = kind → keep c.info = false) :
    List.Forall₂ (Sheds kind P) (n.children.filter (keep ·.info))
      (m.children.filter (keep ·.info)) := by
  refine (h.children.filter keep).forall₂ fun c hc hkind => ?_
  obtain ⟨hmem, hkeep⟩ := List.mem_filter.mp hc
  simp [hextra c hmem hkind] at hkeep

/-- The child with a role is left of the child with it. -/
lemma Sheds.childByField? (h : Sheds kind P n m) (field : String) :
    Option.Rel (Sheds kind P) (n.childByField? field) (m.childByField? field) := by
  have hroleless : ∀ c ∈ n.children, c.kind = kind → (c.info.field == some field) = false := by
    intro c hc hkind
    have hnone := ((h.orderly.of_mem_children hc) c .refl).roleless hkind
    simp [hnone]
  have hfound := rel_head? (h.forall₂_filter (·.field == some field) hroleless)
  rwa [List.head?_filter, List.head?_filter] at hfound

end Thins

end CodeCatalog.Syntax.Node
