import CodeCatalog.Proofs.Syntax.Parentheses
import CodeCatalog.Proofs.Units.Bindings
import CodeCatalog.Proofs.Units.Continuations

/-!
# Units and parentheses

Names of decorators, of base classes and of assignment targets are read through parentheses by two
recursions: one takes what is first in parentheses, the other demands that it is alone there. Both
find a name exactly if there are only parentheses around it, so more parentheses do not matter: the
units stay the same, and a variable has the columns of its name, which are inside the parentheses.

## Main definitions

* `CodeCatalog.Syntax.Alike` — nodes that are read as the same.
* `CodeCatalog.Extraction.Context.SameUnit` — units of two trees that are the same, but for where
  they stand.

## Main results

* `CodeCatalog.bareName?_of_encloses`, `nameTarget?_of_encloses` — what is read in parentheses is
  read of what they are around.
* `CodeCatalog.bareName?_eq_some_iff`, `nameTarget?_eq_some_iff` — only names are read.
* `CodeCatalog.Extraction.Context.unitsBelow_of_encloses` — parentheses give no units.
* `CodeCatalog.Extraction.extractUnits_parenthesized` — the units of a file do not depend on
  parentheses around names.
-/

namespace CodeCatalog

open Syntax Syntax.Node

/-! ## What is read in parentheses -/

section Encloses

variable {source : List Char} {n m inner name : Node}

/-- The only node in a pair of parentheses is the one that it holds. -/
lemma onlyInside?_eq_some_iff_holdsOnly : onlyInside? n = some m ↔ n.HoldsOnly m := by
  rw [onlyInside?_eq_some_iff, List.any_eq_false]
  simp only [beq_iff_eq]
  constructor
  · rintro ⟨hcomma, hinside⟩
    exact ⟨hinside, hcomma⟩
  · intro h
    exact ⟨h.comma, h.inside⟩

instance (n : Node) : Decidable n.OrderlyParentheses :=
  decidable_of_iff ((n.kind = "parenthesized_expression" → (onlyInside? n).isSome) ∧
      (n.isComment → n.children = [])) (by
    simp only [Option.isSome_iff_exists, onlyInside?_eq_some_iff_holdsOnly]
    exact (orderlyParentheses_iff n).symm)

/-- What is alone in parentheses is first in them. -/
lemma Syntax.Node.HoldsOnly.firstCodeChild? (h : n.HoldsOnly m) : firstCodeChild? n = some m := by
  rw [CodeCatalog.firstCodeChild?, ← List.head?_filter, h.inside]
  rfl

/-- The name of an expression in parentheses is that of the expression. -/
lemma bareName?_of_encloses (h : Encloses expressionParentheses inner n) :
    bareName? source n = bareName? source inner := by
  induction h with
  | self => rfl
  | ring hkind honly _ ih =>
    rw [bareName?_eq, List.mem_singleton.mp hkind, honly.firstCodeChild?]
    exact ih

/-- The name of a target in parentheses is that of the target. -/
lemma nameTarget?_of_encloses (h : Encloses targetParentheses inner n) :
    nameTarget? n = nameTarget? inner := by
  induction h with
  | self => rfl
  | @ring n m hkind honly _ ih =>
    have hopens : n.kind = "tuple_pattern" ∨ n.kind = "parenthesized_expression" := by
      simpa [targetParentheses] using hkind
    rw [nameTarget?_eq, onlyInside?_eq_some_iff_holdsOnly.mpr honly]
    rcases hopens with hopens | hopens
    · rw [hopens]
      exact ih
    · rw [hopens]
      exact ih

/-- **A name is read of an expression** exactly if the expression is a name, possibly in
parentheses. -/
lemma bareName?_eq_some_iff (h : n.Everywhere OrderlyParentheses) {text : String} :
    bareName? source n = some text ↔
      ∃ name, Encloses expressionParentheses name n ∧ name.kind = "identifier" ∧
        text = name.text source := by
  constructor
  · intro htext
    fun_induction bareName? source n with
    | case1 n hname =>
      exact ⟨n, .self, by simpa using hname, (Option.some.inj htext).symm⟩
    | case2 n hname hopens inner hinner ih =>
      have hkind : n.kind = "parenthesized_expression" := by simpa using hopens
      obtain ⟨m, honly⟩ := (h n .refl).single hkind
      obtain rfl := Option.some.inj (honly.firstCodeChild?.symm.trans hinner)
      obtain ⟨name, hencloses, hidentifier, heq⟩ := ih (h.of_mem_children honly.mem_children) htext
      exact ⟨name, .ring (List.mem_singleton.mpr hkind) honly hencloses, hidentifier, heq⟩
    | case3 => cases htext
    | case4 => cases htext
  · rintro ⟨name, hencloses, hidentifier, rfl⟩
    rw [bareName?_of_encloses hencloses, bareName?_eq, if_pos (by simpa using hidentifier)]

/-- **A name is read of a target** exactly if the target is the name, possibly in parentheses. -/
lemma nameTarget?_eq_some_iff :
    nameTarget? n = some name ↔
      Encloses targetParentheses name n ∧ name.kind = "identifier" := by
  constructor
  · intro htarget
    fun_induction nameTarget? n with
    | case1 n hname =>
      obtain rfl := Option.some.inj htarget
      exact ⟨.self, by simpa using hname⟩
    | case2 n hname hopens inner hinner ih =>
      obtain ⟨hencloses, hidentifier⟩ := ih htarget
      have hkind : n.kind ∈ targetParentheses := by simpa [targetParentheses] using hopens
      have honly := onlyInside?_eq_some_iff_holdsOnly.mp hinner
      exact ⟨.ring hkind honly hencloses, hidentifier⟩
    | case3 => cases htarget
    | case4 => cases htarget
  · rintro ⟨hencloses, hidentifier⟩
    rw [nameTarget?_of_encloses hencloses, nameTarget?_eq, if_pos (by simpa using hidentifier)]

end Encloses

/-! ## What is read with more parentheses -/

/-- What is known about two nodes of two files, if they are read as the same: they are of one kind,
and names have the same text. -/
structure Syntax.Alike (source source' : List Char) (i j : NodeInfo) : Prop where
  kind : j.kind = i.kind
  named : j.named = i.named
  text : i.kind = "identifier" ∨ i.field = some "name" →
    Text.between source' j.startByte j.endByte = Text.between source i.startByte i.endByte

section Read

variable {R : NodeInfo → NodeInfo → Prop} {source source' : List Char} {above : NodeInfo}
  {n m ring : Node} (hR : ∀ i j, R i j → Alike source source' i j)

include hR

/-- Wrapping targets inside a node leaves its kind. -/
lemma Syntax.Node.Parenthesized.kind_eq (h : Parenthesized R n m) : m.kind = n.kind :=
  (hR _ _ h.info).kind

/-- A child is a comment if it is one in more parentheses. -/
lemma Syntax.Node.Enclosed.isComment_eq (h : Enclosed R above n ring) :
    ring.isComment = n.isComment := by
  obtain ⟨m, hm, hring⟩ := h.enclosed
  have hkinds : "comment" ∉ parenthesesAt above n.info.field := by
    intro hcomment
    simpa [targetParentheses] using (of_mem_parenthesesAt hcomment).1
  rw [hring.isComment_eq hkinds, isComment, hm.kind_eq hR, isComment]

/-- Commas stay where no parentheses are added. -/
lemma any_comma_of_parenthesized (h : Parenthesized R n m)
    (hnone : ∀ role, parenthesesAt n.info role = []) :
    m.children.any (·.kind == ",") = n.children.any (·.kind == ",") := by
  have hkinds : List.Forall₂ (· = ·) (n.children.map kind) (m.children.map kind) := by
    rw [List.forall₂_map_left_iff, List.forall₂_map_right_iff]
    exact h.children.imp fun _ _ hc => ((hc.same (hnone _)).kind_eq hR).symm
  rw [List.forall₂_eq_eq_eq] at hkinds
  have hany (n : Node) : n.children.any (·.kind == ",") = (n.children.map kind).any (· == ",") := by
    rw [List.any_map]
    rfl
  rw [hany, hany, hkinds]

/-- What is first in a node is first in the other, possibly in more parentheses. -/
lemma firstCodeChild?_of_parenthesized (h : Parenthesized R n m) :
    Option.Rel (Enclosed R n.info) (firstCodeChild? n) (firstCodeChild? m) :=
  rel_find? h.namedChildren fun _ _ hc => by rw [hc.isComment_eq hR]

/-- The name of an expression stays. -/
lemma bareName?_of_parenthesized (h : Parenthesized R n m) :
    bareName? source' m = bareName? source n := by
  refine bareName?_rel (fun _ _ hab => hab.kind_eq hR) (fun a b hab hname => ?_)
    (fun a b hab hkind => ?_) h
  · exact (hR _ _ hab.info).text (Or.inl hname)
  · have hnone (role : Option String) : parenthesesAt a.info role = [] :=
      parenthesesAt_eq_nil (by rw [hkind]; decide) role
    exact rel_imp (firstCodeChild?_of_parenthesized hR hab) fun _ _ hcd => hcd.same (hnone _)

/-- The name of a child stays in more parentheses around expressions. -/
lemma Syntax.Node.Enclosed.bareName?_eq (h : Enclosed R above n ring)
    (hkinds : parenthesesAt above n.info.field ⊆ expressionParentheses) :
    bareName? source' ring = bareName? source n := by
  obtain ⟨m, hm, hring⟩ := h.enclosed
  rw [bareName?_of_encloses (hring.mono hkinds), bareName?_of_parenthesized hR hm]

/-- The name of a target stays. -/
lemma nameTarget?_of_parenthesized (h : Parenthesized R n m) :
    Option.Rel (Parenthesized R) (nameTarget? n) (nameTarget? m) := by
  refine nameTarget?_rel (fun _ _ hab => hab.kind_eq hR) (fun a b hab hkind => ?_) h
  have hnone (role : Option String) : parenthesesAt a.info role = [] := by
    refine parenthesesAt_eq_nil ?_ role
    rcases hkind with hkind | hkind <;> rw [hkind] <;> decide
  refine onlyInside?_rel (any_comma_of_parenthesized hR hab hnone) ?_
  exact List.rel_filter (fun c d hcd => by simp only [isComment, hcd.kind_eq hR])
    (hab.namedChildren_same hnone)

/-- The name of a target stays in more parentheses. -/
lemma Syntax.Node.Enclosed.nameTarget? (h : Enclosed R above n ring) :
    Option.Rel (Parenthesized R) (nameTarget? n) (nameTarget? ring) := by
  obtain ⟨m, hm, hring⟩ := h.enclosed
  rw [nameTarget?_of_encloses (hring.mono fun _ hkind => (of_mem_parenthesesAt hkind).1)]
  exact nameTarget?_of_parenthesized hR hm

end Read

namespace Extraction

/-! ## What definitions are made of -/

namespace Context

/-- The signature of a unit is made of what it is built from, apart from its span. -/
lemma signature_unit (c : Context) (kind : UnitKind) (name : String) (decorators : List String)
    (parameters baseTypes : Option (List String)) (span : Span) :
    (c.unit kind name decorators parameters baseTypes span).signature =
      ⟨kind, name, decorators, parameters, baseTypes⟩ :=
  rfl

/-- The unit of a name that a statement in a tree binds. -/
def IsVariableIn (c : Context) (root name : Node) (u : CodeUnit) : Prop :=
  ∃ statement : Node, statement.Within root ∧ name ∈ nameTargets statement ∧
    c.IsVariable statement name u

/-- Units of two trees that are the same but for where they stand. Variables have the columns of
their names, which are related by what is known about them. -/
structure SameUnit (R : NodeInfo → NodeInfo → Prop) (c c' : Context) (root root' : Node)
    (u v : CodeUnit) : Prop where
  signature : v.signature = u.signature
  names : u.kind = .variable → ∃ name name', c.IsVariableIn root name u ∧
    c'.IsVariableIn root' name' v ∧ name.kind = "identifier" ∧ R name.info name'.info

/-- The same units of parts of two trees are the same units of the trees. -/
lemma SameUnit.of_within {R : NodeInfo → NodeInfo → Prop} {c c' : Context}
    {n n' root root' : Node} {u v : CodeUnit} (h : SameUnit R c c' n n' u v)
    (hn : n.Within root) (hn' : n'.Within root') : SameUnit R c c' root root' u v := by
  refine ⟨h.signature, fun hkind => ?_⟩
  obtain ⟨name, name', ⟨statement, hin, hu⟩, ⟨statement', hin', hv⟩, hnames⟩ := h.names hkind
  exact ⟨name, name', ⟨statement, hin.trans hn, hu⟩, ⟨statement', hin'.trans hn', hv⟩, hnames⟩

variable {R : NodeInfo → NodeInfo → Prop} {c c' : Context} {n m : Node} {p q : Placed}
  (hR : ∀ i j, R i j → Alike c.source c'.source i j)

include hR

/-- Wrapping targets inside a node leaves it the same word. -/
lemma sameWord_of_parenthesized (h : Parenthesized R n m) : c.SameWord c' n m :=
  ⟨h.kind_eq hR, fun hname => (hR _ _ h.info).text (Or.inl hname)⟩

/-- The name of a definition stays. -/
lemma nameOf?_of_parenthesized (h : Parenthesized R n m)
    (hnone : ∀ role, parenthesesAt n.info role = []) : c'.nameOf? m = c.nameOf? n := by
  unfold nameOf?
  rcases rel_cases (h.childByField?_same (hnone _)) with ⟨hn, hm⟩ | ⟨a, b, hn, hm, hab, hfield⟩
  · rw [hn, hm]
    rfl
  · rw [hn, hm]
    exact congrArg some ((hR _ _ hab.info).text (Or.inr hfield))

/-- The form of a parameter stays. -/
lemma parameterForm_of_parenthesized (h : Parenthesized R n m) :
    c'.parameterForm m = c.parameterForm n := by
  have hword : ∀ a b, Parenthesized R a b → c.SameWord c' a b :=
    fun _ _ hab => sameWord_of_parenthesized hR hab
  refine parameterForm_congr (hword _ _ h) (fun htyped => ?_) fun hdefault => ?_
  · have hnone (role : Option String) : parenthesesAt n.info role = [] :=
      parenthesesAt_eq_nil (by rw [htyped]; decide) role
    exact rel_imp (rel_head? (h.namedChildren_same hnone)) hword
  · have hnone (role : Option String) : parenthesesAt n.info role = [] := by
      refine parenthesesAt_eq_nil ?_ role
      rcases hdefault with hkind | hkind <;> rw [hkind] <;> decide
    exact rel_imp (h.childByField?_same (hnone _)) fun _ _ hab => hword _ _ hab.1

/-- The parameters of a function stay. -/
lemma positionalParameters_of_parenthesized (h : Parenthesized R n m)
    (hnone : ∀ role, parenthesesAt n.info role = []) :
    ((m.childByField? "parameters").map c'.positionalParameters).getD [] =
      ((n.childByField? "parameters").map c.positionalParameters).getD [] := by
  rcases rel_cases (h.childByField?_same (hnone _)) with ⟨hn, hm⟩ | ⟨a, b, hn, hm, hab, hfield⟩
  · rw [hn, hm]
    rfl
  · rw [hn, hm]
    have hnone (role : Option String) : parenthesesAt a.info role = [] := by
      simp [parenthesesAt, hfield]
    exact gatherParameters_congr ((hab.namedChildren_same hnone).imp fun _ _ hparameter =>
      parameterForm_of_parenthesized hR hparameter)

/-- The base classes of a class stay in more parentheses. -/
lemma baseNames_of_parenthesized (h : Parenthesized R n m)
    (hnone : ∀ role, parenthesesAt n.info role = []) :
    ((m.childByField? "superclasses").map c'.baseNames).getD [] =
      ((n.childByField? "superclasses").map c.baseNames).getD [] := by
  rcases rel_cases (h.childByField?_same (hnone _)) with ⟨hn, hm⟩ | ⟨a, b, hn, hm, hab, hfield⟩
  · rw [hn, hm]
    rfl
  · rw [hn, hm]
    exact filterMap_eq_of_forall₂ hab.namedChildren fun _ _ _ hbase =>
      hbase.bareName?_eq hR (parenthesesAt_subset (Or.inr hfield) _)

/-- The decorators of a definition stay in more parentheses. -/
lemma decoratorsOf_of_parenthesized (h : Option.Rel (Parenthesized R) p.parent q.parent) :
    c'.decoratorsOf q = c.decoratorsOf p := by
  unfold decoratorsOf
  rcases rel_cases h with ⟨hp, hq⟩ | ⟨parent, parent', hp, hq, hparent⟩
  · rw [hp, hq]
  rw [hp, hq]
  simp only [hparent.kind_eq hR]
  split
  · rename_i hdecorated
    have hnone (role : Option String) : parenthesesAt parent.info role = [] :=
      parenthesesAt_eq_nil (by rw [beq_iff_eq.mp hdecorated]; decide) role
    have hdecorators : List.Forall₂ (Parenthesized R)
        (parent.namedChildren.filter (·.kind == "decorator"))
        (parent'.namedChildren.filter (·.kind == "decorator")) :=
      List.rel_filter (fun _ _ hd => by simp only [hd.kind_eq hR])
        (hparent.namedChildren_same hnone)
    refine filterMap_eq_of_forall₂ hdecorators fun d hd d' hdd => ?_
    have hkind : d.info.kind ≠ "assignment" := by
      rw [← kind, beq_iff_eq.mp (List.mem_filter.mp hd).2]
      decide
    rcases rel_cases (firstCodeChild?_of_parenthesized hR hdd) with ⟨hn, hm⟩ | ⟨a, b, hn, hm, hab⟩
    · rw [hn, hm]
      rfl
    · rw [hn, hm]
      exact hab.bareName?_eq hR (parenthesesAt_subset (Or.inl hkind) _)
  · rfl

/-- The links of a chain stay. -/
lemma forall₂_chain_of_parenthesized (h : Parenthesized R n m) (hkind : n.kind = "assignment") :
    List.Forall₂ (fun a b => Parenthesized R a b ∧ a.kind = "assignment") (chain n) (chain m) := by
  refine forall₂_chain ?_ ⟨h, hkind⟩
  rintro a b ⟨hab, hkind⟩
  have hnone : parenthesesAt a.info (some "right") = [] := by
    have hinfo : a.info.kind = "assignment" := hkind
    simp [parenthesesAt, hinfo]
  have hright := rel_imp (hab.childByField?_same hnone) fun _ _ hcd => hcd.1
  rcases rel_cases (nextLink?_rel (fun _ _ hcd => hcd.kind_eq hR) hright) with
    ⟨hn, hm⟩ | ⟨next, next', hn, hm, hnext⟩
  · rw [hn, hm]
    exact .none
  · rw [hn, hm]
    exact .some ⟨hnext, (nextLink?_eq_some_iff.mp hn).2⟩

/-- The names that a chain binds stay in more parentheses. -/
lemma forall₂_nameTargets (h : Parenthesized R n m) (hkind : n.kind = "assignment") :
    List.Forall₂ (fun a b => Parenthesized R a b ∧ a.kind = "identifier") (nameTargets n)
      (nameTargets m) := by
  refine List.rel_filterMap (fun a b hab => ?_) (forall₂_chain_of_parenthesized hR h hkind)
  rcases rel_cases (hab.1.childByField? "left") with ⟨hn, hm⟩ | ⟨left, left', hn, hm, hleft, -⟩
  · rw [hn, hm]
    exact .none
  rw [hn, hm, Option.bind_some, Option.bind_some]
  rcases rel_cases (hleft.nameTarget? hR) with ⟨hn, hm⟩ | ⟨name, name', hn, hm, hname⟩
  · rw [hn, hm]
    exact .none
  · rw [hn, hm]
    exact .some ⟨hname, (nameTarget?_eq_some_iff.mp hn).2⟩

/-! ## The units of a node -/

/-- The role of a node stays. -/
lemma classify_of_parenthesized (hparent : Option.Rel (Parenthesized R) p.parent q.parent)
    (h : Parenthesized R p.node q.node) : classify q = classify p := by
  refine classify_congr (h.kind_eq hR) ?_ fun field => ?_
  · rcases rel_cases hparent with ⟨hp, hq⟩ | ⟨parent, parent', hp, hq, hparent⟩
    · rw [hp, hq]
    · rw [hp, hq, Option.map_some, Option.map_some, hparent.kind_eq hR]
  · rcases rel_cases (h.childByField? field) with ⟨hp, hq⟩ | ⟨a, b, hp, hq, -⟩
    · rw [hp, hq]
    · rw [hp, hq, Option.isSome_some, Option.isSome_some]

/-- **The units of a node stay** in more parentheses around names. -/
lemma forall₂_ownUnits (hparent : Option.Rel (Parenthesized R) p.parent q.parent)
    (h : Parenthesized R p.node q.node) :
    List.Forall₂ (SameUnit R c c' p.node q.node) (c.ownUnits p) (c'.ownUnits q) := by
  have hroles := classify_of_parenthesized hR hparent h
  have hdecorators := decoratorsOf_of_parenthesized hR hparent
  have hnone (hdefinition : p.node.isDefinition) (role : Option String) :
      parenthesesAt p.node.info role = [] := by
    refine parenthesesAt_eq_nil ?_ role
    rcases Bool.or_eq_true_iff.mp hdefinition with hkind | hkind <;>
      rw [beq_iff_eq.mp hkind] <;> decide
  cases hrole : classify p with
  | function =>
    have hnone := hnone (isDefinition_of_classify (Or.inl hrole))
    rw [ownUnits, ownUnits, hroles, hrole]
    simp only [functionUnit?, nameOf?_of_parenthesized hR h hnone]
    cases c.nameOf? p.node with
    | none => exact .nil
    | some name =>
      refine .cons ⟨?_, fun hkind => by cases hkind⟩ .nil
      simp only [signature_unit, hdecorators, positionalParameters_of_parenthesized hR h hnone]
  | classDef =>
    have hnone := hnone (isDefinition_of_classify (Or.inr hrole))
    rw [ownUnits, ownUnits, hroles, hrole]
    simp only [classUnit?, nameOf?_of_parenthesized hR h hnone]
    cases c.nameOf? p.node with
    | none => exact .nil
    | some name =>
      refine .cons ⟨?_, fun hkind => by cases hkind⟩ .nil
      simp only [signature_unit, hdecorators, baseNames_of_parenthesized hR h hnone]
  | assignment =>
    have hkind := (of_classify_eq_assignment hrole).1
    rw [ownUnits, ownUnits, hroles, hrole]
    simp only [variableUnits_eq_map, List.forall₂_map_left_iff, List.forall₂_map_right_iff]
    refine (forall₂_mem (forall₂_nameTargets hR h hkind)).imp ?_
    rintro name name' ⟨hmem, hmem', hname, hidentifier⟩
    have htext := (sameWord_of_parenthesized hR hname).text hidentifier
    exact ⟨congrArg variableSignature htext, fun _ => ⟨name, name',
      ⟨p.node, .refl, hmem, rfl, rfl, rfl, rfl, rfl, rfl, rfl⟩,
      ⟨q.node, .refl, hmem', rfl, rfl, rfl, rfl, rfl, rfl, rfl⟩, hidentifier, hname.info⟩⟩
  | other =>
    rw [ownUnits, ownUnits, hroles, hrole]
    exact .nil

omit hR

/-! ## The units below a node -/

/-- A node that is neither an expression statement nor a decorated definition: the units of its
children do not depend on it. -/
def IsUnread (n : Node) : Prop := n.kind ≠ "expression_statement" ∧ n.kind ≠ "decorated_definition"

/-- The units of a node do not depend on the node above it, if that one is not read. -/
lemma unitsBelow_of_isUnread (c : Context) (hn : IsUnread n) (hm : IsUnread m) (child : Node) :
    c.unitsBelow ⟨some n, child⟩ = c.unitsBelow ⟨some m, child⟩ := by
  have hroles : classify ⟨some n, child⟩ = classify ⟨some m, child⟩ := by
    simp [classify, isPlainAssignment, hn.1, hm.1]
  have hdecorators : c.decoratorsOf ⟨some n, child⟩ = c.decoratorsOf ⟨some m, child⟩ := by
    simp [decoratorsOf, hn.2, hm.2]
  have hown : c.ownUnits ⟨some n, child⟩ = c.ownUnits ⟨some m, child⟩ := by
    rw [ownUnits, hroles, ownUnits, functionUnit?, classUnit?, hdecorators]
    rfl
  rw [unitsBelow, below_eq, hown, unitsBelow, below_eq]
  rfl

/-- **Parentheses give no units**: what they are around gives the same units without them.

**Proof sketch.** Induction on the depth. A ring of parentheses gives no units itself, and neither
do the comments in it; what is left is alone in it. -/
lemma unitsBelow_of_encloses (c : Context) {kinds : List String} {above inner ring : Node}
    (h : Encloses kinds inner ring) (hkinds : kinds ⊆ targetParentheses)
    (habove : IsUnread above) (horderly : ring.Everywhere OrderlyParentheses) :
    c.unitsBelow ⟨some above, ring⟩ = c.unitsBelow ⟨some above, inner⟩ := by
  induction h with
  | self => rfl
  | @ring n m hkind honly _ ih =>
    have hopens : n.kind = "tuple_pattern" ∨ n.kind = "parenthesized_expression" := by
      simpa [targetParentheses] using hkinds hkind
    have hnone : c.ownUnits ⟨some above, n⟩ = [] := by
      rcases hopens with hopens | hopens <;> simp [ownUnits, classify, hopens]
    have hring : IsUnread n := by
      rcases hopens with hopens | hopens <;> rw [IsUnread, hopens] <;> decide
    have hcode : (n.namedChildren.filter fun d => !d.isComment).flatMap
        (fun d => c.unitsBelow ⟨some n, d⟩) =
          n.namedChildren.flatMap fun d => c.unitsBelow ⟨some n, d⟩ := by
      refine flatMap_filter_of_eq_nil fun d hd hcomment => ?_
      have hcomment : d.isComment := by simpa using hcomment
      have hinside := horderly.of_mem_children (mem_children_of_mem_namedChildren hd)
      exact c.unitsBelow_comment hcomment ((hinside d .refl).childless hcomment)
    rw [unitsBelow, below_eq, hnone, List.nil_append, Placed.namedChildren, List.flatMap_map,
      ← ih (horderly.of_mem_children honly.mem_children), ← c.unitsBelow_of_isUnread hring habove]
    refine hcode.symm.trans ?_
    rw [honly.inside, List.flatMap_singleton]

/-- A child in more parentheses gives the units of the same child without them. -/
lemma exists_unitsBelow_eq (hR : ∀ i j, R i j → Alike c.source c'.source i j)
    {above above' ring : Node} (habove : Parenthesized R above above')
    (h : Enclosed R above.info n ring) (horderly : ring.Everywhere OrderlyParentheses) :
    ∃ m, Parenthesized R n m ∧ m.Within ring ∧
      c'.unitsBelow ⟨some above', ring⟩ = c'.unitsBelow ⟨some above', m⟩ := by
  obtain ⟨m, hm, hencloses⟩ := h.enclosed
  refine ⟨m, hm, hencloses.within, ?_⟩
  cases hencloses with
  | self => rfl
  | ring hkind honly hrest =>
    have hkinds := (of_mem_parenthesesAt hkind).2
    rw [← kind, ← habove.kind_eq hR] at hkinds
    have hunread : IsUnread above' := by
      constructor
      · rintro heq
        simp [heq] at hkinds
      · rintro heq
        simp [heq] at hkinds
    exact c'.unitsBelow_of_encloses (.ring hkind honly hrest)
      (fun _ hmem => (of_mem_parenthesesAt hmem).1) hunread horderly

/-- **The units of a tree stay** in more parentheses around names.

**Proof sketch.** Induction over the tree. The node gives the same units (`forall₂_ownUnits`). Each
named child stands in more parentheses, which give no units (`exists_unitsBelow_eq`), and what they
are around gives the same units by induction. -/
lemma forall₂_unitsBelow (hR : ∀ i j, R i j → Alike c.source c'.source i j)
    (hparent : Option.Rel (Parenthesized R) p.parent q.parent) (h : Parenthesized R p.node q.node)
    (horderly : q.node.Everywhere OrderlyParentheses) :
    List.Forall₂ (SameUnit R c c' p.node q.node) (c.unitsBelow p) (c'.unitsBelow q) := by
  induction p using namedChildren_induction generalizing q with
  | step p ih =>
    rw [unitsBelow, below_eq, unitsBelow, below_eq]
    refine List.rel_append (forall₂_ownUnits hR hparent h) ?_
    rw [Placed.namedChildren, Placed.namedChildren, List.flatMap_map, List.flatMap_map]
    refine List.rel_flatMap (forall₂_mem h.namedChildren) ?_
    rintro n ring ⟨hn, hring, henclosed⟩
    have hnChild := mem_children_of_mem_namedChildren hn
    have hringChild := mem_children_of_mem_namedChildren hring
    have hinside := horderly.of_mem_children hringChild
    obtain ⟨m, hm, hwithin, heq⟩ := exists_unitsBelow_eq hR h henclosed hinside
    have hunits := @ih ⟨some p.node, n⟩ (List.mem_map_of_mem hn) ⟨some q.node, m⟩ (.some h) hm
      (hinside.of_within hwithin)
    rw [← heq] at hunits
    exact hunits.imp fun _ _ hunit =>
      hunit.of_within (.child hnChild .refl) (.child hringChild hwithin)

end Context

/-! ## The units of a file -/

/-- **Redundant parentheses do not matter**: let a tree have the nodes of another one, read as the
same, and more parentheses around expressions of decorators, base classes and assignment targets, to
any depth and with any comments in them. Then the units of both files are the same one by one, in
order, in their kinds, names, decorators, parameters and base classes. A variable has the columns of
its name inside the parentheses; they stay if those of names do. What is read in parentheses is read
of what they are around, and it is a name: of nothing else is a name read.

**Proof sketch.** The walk meets the same nodes, and parentheses and comments that give nothing
(`Context.forall₂_unitsBelow`). Each recursion finds a name exactly through rings of parentheses
(`bareName?_eq_some_iff`, `nameTarget?_eq_some_iff`). -/
theorem extractUnits_parenthesized (filePath source source' : String)
    (R : NodeInfo → NodeInfo → Prop) (root root' : Node)
    (hR : ∀ i j, R i j → Alike source.toList source'.toList i j)
    (h : Parenthesized R root root') (horderly : root'.Everywhere OrderlyParentheses) :
    List.Forall₂
        (Context.SameUnit R (.ofFile filePath source) (.ofFile filePath source') root root')
        (extractUnits filePath source root) (extractUnits filePath source' root') ∧
      ((∀ i j, R i j → i.kind = "identifier" →
          j.start.column = i.start.column ∧ j.stop.column = i.stop.column) →
        List.Forall₂ (fun u v => u.kind = .variable → v.startCol = u.startCol ∧ v.endCol = u.endCol)
          (extractUnits filePath source root) (extractUnits filePath source' root')) ∧
      ∀ e : Node, e.Within root' →
        (∀ inner, Encloses expressionParentheses inner e →
          bareName? source'.toList e = bareName? source'.toList inner) ∧
        (∀ inner, Encloses targetParentheses inner e → nameTarget? e = nameTarget? inner) ∧
        (∀ text, bareName? source'.toList e = some text ↔
          ∃ name, Encloses expressionParentheses name e ∧ name.kind = "identifier" ∧
            text = name.text source'.toList) ∧
        ∀ name, nameTarget? e = some name ↔
          Encloses targetParentheses name e ∧ name.kind = "identifier" := by
  let c := Context.ofFile filePath source
  let c' := Context.ofFile filePath source'
  have hunits : List.Forall₂ (Context.SameUnit R c c' root root')
      (extractUnits filePath source root) (extractUnits filePath source' root') := by
    rw [extractUnits, extractUnits, Context.walk_eq_unitsBelow, Context.walk_eq_unitsBelow]
    exact Context.forall₂_unitsBelow (p := ⟨none, root⟩) (q := ⟨none, root'⟩) hR .none h horderly
  refine ⟨hunits, fun hcolumns => hunits.imp fun u v hsame hvariable => ?_,
    fun e he => ⟨?_, ?_, ?_, ?_⟩⟩
  · obtain ⟨name, name', ⟨_, -, -, hu⟩, ⟨_, -, -, hv⟩, hname, hrel⟩ := hsame.names hvariable
    obtain ⟨hstart, hstop⟩ := hcolumns _ _ hrel hname
    rw [hu.startCol, hv.startCol, hu.endCol, hv.endCol, hstart, hstop]
    exact ⟨rfl, rfl⟩
  · exact fun inner hinner => bareName?_of_encloses hinner
  · exact fun inner hinner => nameTarget?_of_encloses hinner
  · exact fun text => bareName?_eq_some_iff (horderly.of_within he)
  · exact fun name => nameTarget?_eq_some_iff

/-! ### A class and an assignment with parentheses -/

/-- A file with a class that has a decorator and a base class, and with an assignment. -/
def decoratedFile (decorator base target : Node) : Node :=
  sampleNode "module" none
    [sampleNode "decorated_definition" none
      [sampleNode "decorator" none [decorator],
        sampleNode "class_definition" (some "definition")
          [sampleNode "identifier" (some "name") [],
            sampleNode "argument_list" (some "superclasses") [base]]],
      sampleNode "expression_statement" none
        [sampleNode "assignment" none [target, sampleNode "integer" (some "right") []]]]

/-- The file with three names. -/
def plainNamesFile : Node :=
  decoratedFile (sampleNode "identifier" none []) (sampleNode "identifier" none [])
    (sampleNode "identifier" (some "left") [])

/-- A name in parentheses, behind a comment. -/
def sampleRing : Node :=
  sampleNode "parenthesized_expression" none [sampleComment, sampleNode "identifier" none []]

/-- The name in more parentheses, in front of a comment. -/
def ringedDecorator : Node :=
  sampleNode "parenthesized_expression" none [sampleRing, sampleComment]

/-- The name in more parentheses, as a target. -/
def ringedTarget : Node := sampleNode "tuple_pattern" (some "left") [sampleRing]

/-- The file with the same names in parentheses. -/
def ringedNamesFile : Node := decoratedFile ringedDecorator sampleRing ringedTarget

/-- What is known about two nodes that are the same, but for their roles. -/
def SameButRole (i j : NodeInfo) : Prop := j = { i with field := j.field }

/-- More parentheses are put around the three expressions. -/
lemma parenthesized_decoratedFile {R : NodeInfo → NodeInfo → Prop} (hR : ∀ i, R i i)
    {decorator base target decorator' base' target' : Node}
    (hdecorator : Enclosed R (sampleNode "decorator" none []).info decorator decorator')
    (hbase : Enclosed R (sampleNode "argument_list" (some "superclasses") []).info base base')
    (htarget : Enclosed R (sampleNode "assignment" none []).info target target') :
    Parenthesized R (decoratedFile decorator base target)
      (decoratedFile decorator' base' target') := by
  obtain ⟨⟨d, hd, hdRings⟩, hdField, hdNamed⟩ := hdecorator
  obtain ⟨⟨b, hb, hbRings⟩, hbField, hbNamed⟩ := hbase
  obtain ⟨⟨t, ht, htRings⟩, htField, htNamed⟩ := htarget
  have hname := Parenthesized.refl hR (sampleNode "identifier" (some "name") [])
  have hright := Parenthesized.refl hR (sampleNode "integer" (some "right") [])
  have hdecoration : Parenthesized R (sampleNode "decorator" none [decorator])
      (sampleNode "decorator" none [decorator']) :=
    .node (hR _) (.cons hd hdRings hdField hdNamed .nil)
  have hbases : Parenthesized R (sampleNode "argument_list" (some "superclasses") [base])
      (sampleNode "argument_list" (some "superclasses") [base']) :=
    .node (hR _) (.cons hb hbRings hbField hbNamed .nil)
  have hassignment : Parenthesized R
      (sampleNode "assignment" none [target, sampleNode "integer" (some "right") []])
      (sampleNode "assignment" none [target', sampleNode "integer" (some "right") []]) :=
    .node (hR _) (.cons ht htRings htField htNamed (.cons hright .self rfl rfl .nil))
  exact .node (hR _)
    (.cons (.node (hR _) (.cons hdecoration .self rfl rfl
        (.cons (.node (hR _) (.cons hname .self rfl rfl (.cons hbases .self rfl rfl .nil)))
          .self rfl rfl .nil))) .self rfl rfl
      (.cons (.node (hR _) (.cons hassignment .self rfl rfl .nil)) .self rfl rfl .nil))

/-- The names in parentheses are found as they are without them. -/
theorem ringedNamesFile_units :
    Parenthesized SameButRole plainNamesFile ringedNamesFile ∧
      ringedNamesFile.Everywhere OrderlyParentheses ∧
      (extractUnits "a.py" "class C" ringedNamesFile).map CodeUnit.signature =
        [⟨.classDef, "C", ["C"], none, some ["C"]⟩, ⟨.variable, "C", [], none, none⟩] := by
  have hrefl (i : NodeInfo) : SameButRole i i := rfl
  have hname (role : Option String) : Parenthesized SameButRole (sampleNode "identifier" role [])
    (sampleNode "identifier" none []) := .node rfl .nil
  have hring : sampleRing.HoldsOnly (sampleNode "identifier" none []) := ⟨rfl, by decide⟩
  have hdecorator : Enclosed SameButRole (sampleNode "decorator" none []).info
      (sampleNode "identifier" none []) ringedDecorator :=
    ⟨⟨_, hname none, .ring (by decide) ⟨rfl, by decide⟩ (.ring (by decide) hring .self)⟩, rfl, rfl⟩
  have hbase : Enclosed SameButRole (sampleNode "argument_list" (some "superclasses") []).info
      (sampleNode "identifier" none []) sampleRing :=
    ⟨⟨_, hname none, .ring (by decide) hring .self⟩, rfl, rfl⟩
  have htarget : Enclosed SameButRole (sampleNode "assignment" none []).info
      (sampleNode "identifier" (some "left") []) ringedTarget :=
    ⟨⟨_, hname (some "left"), .ring (by decide) ⟨rfl, by decide⟩ (.ring (by decide) hring .self)⟩,
      rfl, rfl⟩
  have hfiles : Parenthesized SameButRole plainNamesFile ringedNamesFile :=
    parenthesized_decoratedFile hrefl hdecorator hbase htarget
  have horderly : ringedNamesFile.Everywhere OrderlyParentheses := by decide
  have hplain : (extractUnits "a.py" "class C" plainNamesFile).map CodeUnit.signature =
      [⟨.classDef, "C", ["C"], none, some ["C"]⟩, ⟨.variable, "C", [], none, none⟩] := by
    decide +kernel
  have halike (i j : NodeInfo) (hij : SameButRole i j) :
      Alike "class C".toList "class C".toList i j := by
    rw [hij]
    exact ⟨rfl, rfl, fun _ => rfl⟩
  have hunits := (extractUnits_parenthesized "a.py" "class C" "class C" SameButRole _ _ halike
    hfiles horderly).1
  have hsignatures : List.Forall₂ (· = ·)
      ((extractUnits "a.py" "class C" plainNamesFile).map CodeUnit.signature)
      ((extractUnits "a.py" "class C" ringedNamesFile).map CodeUnit.signature) := by
    rw [List.forall₂_map_left_iff, List.forall₂_map_right_iff]
    exact hunits.imp fun _ _ hsame => hsame.signature.symm
  rw [List.forall₂_eq_eq_eq] at hsignatures
  exact ⟨hfiles, horderly, hsignatures.symm.trans hplain⟩

end Extraction

end CodeCatalog
