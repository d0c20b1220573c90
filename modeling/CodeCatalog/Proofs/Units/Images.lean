import CodeCatalog.Proofs.Syntax.Extras
import CodeCatalog.Proofs.Units.Traversal

/-!
# What is read of related trees

A relation between nodes extends to what is read of them if it keeps kinds and goes along with the
access to children. A map of nodes is such a relation: dropping comments and moving a tree down are
maps of this sort.

## Main results

* `CodeCatalog.onlyInside?_rel`, `nameTarget?_rel`, `onlyInside?_map`, `nameTarget?_map` — targets.
* `CodeCatalog.bareName?_rel`, `bareName?_map` — names of expressions.
* `CodeCatalog.lastToken_map` — last tokens.
* `CodeCatalog.Extraction.forall₂_chain`, `chain_map` — chains of assignments.
-/

namespace CodeCatalog

open Syntax Syntax.Node

/-! ## Optional images -/

section Optional

variable {α β : Type} {P : α → Prop} {f : α → β} {x : Option α}

/-- An optional value with a property is related to its image. -/
lemma rel_map (hx : ∀ a ∈ x, P a) : Option.Rel (fun a b => P a ∧ f a = b) x (x.map f) := by
  cases x with
  | none => exact .none
  | some a => exact .some ⟨hx a rfl, rfl⟩

/-- An optional value that is related to another one as to an image has it for its image. -/
lemma eq_map_of_rel {y : Option β} (h : Option.Rel (fun a b => P a ∧ f a = b) x y) :
    y = x.map f := by
  cases h with
  | none => rfl
  | some hab => exact congrArg some hab.2.symm

end Optional

/-! ## Related nodes -/

section Related

variable {R : Node → Node → Prop} {n m : Node}

/-- The only ones of related nodes are related. -/
lemma only_rel {barred : Bool} {ns ms : List Node} :
    List.Forall₂ R ns ms → Option.Rel R
      (if barred then none else
        match ns with
        | [inner] => some inner
        | _ => none)
      (if barred then none else
        match ms with
        | [inner] => some inner
        | _ => none) := by
  intro h
  split
  · exact .none
  · cases h with
    | nil => exact .none
    | cons hfirst hrest =>
      cases hrest with
      | nil => exact .some hfirst
      | cons _ _ => exact .none

/-- What is alone in parentheses is related to what is alone in others with the same commas, if what
is no comment is related. -/
lemma onlyInside?_rel
    (hcomma : m.children.any (·.kind == ",") = n.children.any (·.kind == ","))
    (hcode : List.Forall₂ R (n.namedChildren.filter fun c => !c.isComment)
      (m.namedChildren.filter fun c => !c.isComment)) :
    Option.Rel R (onlyInside? n) (onlyInside? m) := by
  rw [onlyInside?, onlyInside?, hcomma]
  exact only_rel hcode

/-- Related targets have related names. -/
lemma nameTarget?_rel (hkind : ∀ a b, R a b → b.kind = a.kind)
    (hinside : ∀ a b, R a b → a.kind = "tuple_pattern" ∨ a.kind = "parenthesized_expression" →
      Option.Rel R (onlyInside? a) (onlyInside? b)) (h : R n m) :
    Option.Rel R (nameTarget? n) (nameTarget? m) := by
  fun_induction nameTarget? n generalizing m with
  | case1 n hname =>
    rw [nameTarget?_eq m, hkind n m h, if_pos hname]
    exact .some h
  | case2 n hname hopens inner hinner ih =>
    rw [nameTarget?_eq m, hkind n m h, if_neg hname, if_pos hopens]
    rcases rel_cases (hinside n m h (by simpa using hopens)) with ⟨hnone, -⟩ | ⟨a, b, ha, hb, hab⟩
    · rw [hnone] at hinner
      cases hinner
    · obtain rfl := Option.some.inj (ha.symm.trans hinner)
      rw [hb, Option.bind_some]
      exact ih hab
  | case3 n hname hopens hnone =>
    rw [nameTarget?_eq m, hkind n m h, if_neg hname, if_pos hopens]
    rcases rel_cases (hinside n m h (by simpa using hopens)) with ⟨-, hnone'⟩ | ⟨a, b, ha, -, -⟩
    · rw [hnone']
      exact .none
    · rw [hnone] at ha
      cases ha
  | case4 n hname hopens =>
    rw [nameTarget?_eq m, hkind n m h, if_neg hname, if_neg hopens]
    exact .none

/-- Related expressions have the same name. -/
lemma bareName?_rel {source source' : List Char} (hkind : ∀ a b, R a b → b.kind = a.kind)
    (htext : ∀ a b, R a b → a.kind = "identifier" → b.text source' = a.text source)
    (hfirst : ∀ a b, R a b → a.kind = "parenthesized_expression" →
      Option.Rel R (firstCodeChild? a) (firstCodeChild? b)) (h : R n m) :
    bareName? source' m = bareName? source n := by
  fun_induction bareName? source n generalizing m with
  | case1 n hname =>
    rw [bareName?_eq source' m, hkind n m h, if_pos hname, htext n m h (by simpa using hname)]
  | case2 n hname hopens inner hinner ih =>
    rw [bareName?_eq source' m, hkind n m h, if_neg hname, if_pos hopens]
    rcases rel_cases (hfirst n m h (by simpa using hopens)) with ⟨hnone, -⟩ | ⟨a, b, ha, hb, hab⟩
    · rw [hnone] at hinner
      cases hinner
    · obtain rfl := Option.some.inj (ha.symm.trans hinner)
      rw [hb, Option.bind_some]
      exact ih hab
  | case3 n hname hopens hnone =>
    rw [bareName?_eq source' m, hkind n m h, if_neg hname, if_pos hopens]
    rcases rel_cases (hfirst n m h (by simpa using hopens)) with ⟨-, hnone'⟩ | ⟨a, b, ha, -, -⟩
    · rw [hnone']
      rfl
    · rw [hnone] at ha
      cases ha
  | case4 n hname hopens => rw [bareName?_eq source' m, hkind n m h, if_neg hname, if_neg hopens]

namespace Extraction

/-- The next links of related links with related right sides. -/
lemma nextLink?_rel (hkind : ∀ a b, R a b → b.kind = a.kind)
    (hright : Option.Rel R (n.childByField? "right") (m.childByField? "right")) :
    Option.Rel R (nextLink? n) (nextLink? m) := by
  unfold nextLink?
  rcases rel_cases hright with ⟨hn, hm⟩ | ⟨a, b, hn, hm, hab⟩
  · rw [hn, hm]
    exact .none
  · rw [hn, hm]
    simp only [hkind a b hab]
    split
    · exact .some hab
    · exact .none

/-- If related links have related next ones, then their chains are related link by link. -/
lemma forall₂_chain (hnext : ∀ a b, R a b → Option.Rel R (nextLink? a) (nextLink? b))
    (h : R n m) : List.Forall₂ R (chain n) (chain m) := by
  fun_induction chain n generalizing m with
  | case1 n next hsome ih =>
    rcases rel_cases (hnext n m h) with ⟨hnone, -⟩ | ⟨a, b, ha, hb, hab⟩
    · rw [hsome] at hnone
      cases hnone
    · obtain rfl := Option.some.inj (ha.symm.trans hsome)
      rw [chain_eq m, hb]
      exact .cons h (ih hab)
  | case2 n hlast =>
    rcases rel_cases (hnext n m h) with ⟨-, hnone⟩ | ⟨a, b, ha, -, -⟩
    · rw [chain_eq m, hnone]
      exact .cons h .nil
    · rw [hlast] at ha
      cases ha

end Extraction

end Related

/-! ## Images -/

section Images

variable {f : Node → Node}

/-- What is alone in parentheses is alone in others with the same commas and the images of what is
no comment. -/
lemma onlyInside?_map {n m : Node} (f : Node → Node)
    (hcomma : m.children.any (·.kind == ",") = n.children.any (·.kind == ","))
    (hcode : (m.namedChildren.filter fun c => !c.isComment) =
      (n.namedChildren.filter fun c => !c.isComment).map f) :
    onlyInside? m = (onlyInside? n).map f := by
  refine eq_map_of_rel (P := fun _ => True) (onlyInside?_rel hcomma ?_)
  rw [hcode, List.forall₂_map_right_iff, List.forall₂_same]
  exact fun _ _ => ⟨trivial, rfl⟩

/-- The name of the image of a target is the image of its name. -/
lemma nameTarget?_map (hkind : ∀ n, (f n).kind = n.kind)
    (hinside : ∀ n, onlyInside? (f n) = (onlyInside? n).map f) (n : Node) :
    nameTarget? (f n) = (nameTarget? n).map f := by
  refine eq_map_of_rel (P := fun _ => True) (nameTarget?_rel ?_ ?_ ⟨trivial, rfl⟩)
  · rintro a _ ⟨-, rfl⟩
    exact hkind a
  · rintro a _ ⟨-, rfl⟩ -
    rw [hinside]
    exact rel_map fun _ _ => trivial

/-- The name of the image of an expression, where all nodes with a property have the same text as
their images, and children have the property too. -/
lemma bareName?_map {P : Node → Prop} {source source' : List Char}
    (hinside : ∀ {n c}, P n → c ∈ n.children → P c) (hkind : ∀ n, (f n).kind = n.kind)
    (htext : ∀ n, P n → (f n).text source' = n.text source)
    (hfirst : ∀ n, firstCodeChild? (f n) = (firstCodeChild? n).map f) {n : Node} (h : P n) :
    bareName? source' (f n) = bareName? source n := by
  refine bareName?_rel (R := fun a b => P a ∧ f a = b) ?_ ?_ ?_ ⟨h, rfl⟩
  · rintro a _ ⟨-, rfl⟩
    exact hkind a
  · rintro a _ ⟨ha, rfl⟩ -
    exact htext a ha
  · rintro a _ ⟨ha, rfl⟩ -
    rw [hfirst]
    exact rel_map fun c hc => hinside ha (mem_children_of_firstCodeChild? hc)

/-- The last token of the image of a node is the image of its last token. -/
lemma lastToken_map (hlast : ∀ n, lastCodeChild? (f n) = (lastCodeChild? n).map f) (n : Node) :
    lastToken (f n) = f (lastToken n) := by
  fun_induction lastToken n with
  | case1 n c hc ih =>
    rw [← ih]
    refine lastToken_of_lastCodeChild? ?_
    rw [hlast, hc]
    rfl
  | case2 n hnone =>
    refine lastToken_of_lastCodeChild?_eq_none ?_
    rw [hlast, hnone]
    rfl

namespace Extraction

/-- The chain of the image of a link has the images of the links, where all nodes with a property
have the images of their right sides, and children have the property too. -/
lemma chain_map {P : Node → Prop} (hinside : ∀ {n c}, P n → c ∈ n.children → P c)
    (hkind : ∀ n, (f n).kind = n.kind)
    (hright : ∀ n, P n → (f n).childByField? "right" = (n.childByField? "right").map f)
    {link : Node} (h : P link) : chain (f link) = (chain link).map f := by
  have hlinks : List.Forall₂ (fun a b => P a ∧ f a = b) (chain link) (chain (f link)) := by
    refine forall₂_chain ?_ ⟨h, rfl⟩
    rintro a _ ⟨ha, rfl⟩
    refine nextLink?_rel (fun b _ hb => hb.2 ▸ hkind b) ?_
    rw [hright a ha]
    exact rel_map fun c hc => hinside ha (mem_children_of_childByField? hc)
  have himages := List.forall₂_map_left_iff.mpr (hlinks.imp fun _ _ hb => hb.2)
  rw [List.forall₂_eq_eq_eq] at himages
  exact himages.symm

end Extraction

end Images

end CodeCatalog
