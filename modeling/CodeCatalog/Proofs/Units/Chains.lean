import CodeCatalog.Proofs.Units.Nesting

/-!
# Chains of assignments

A statement `a = b = 1` is a chain of two links: an assignment whose right side is an assignment.
The role of a statement is asked of its first link only, so this one has a value and no annotation.
The others give units whatever they are.

## Main definitions

* `CodeCatalog.Extraction.IsPlainLink` — a link with a value and without an annotation.
* `CodeCatalog.Extraction.BoundAt` — a variable of a file, its statement and its link.

## Main results

* `CodeCatalog.Extraction.exists_boundAt` — every variable comes from a link.
* `CodeCatalog.Extraction.extractUnits_links_plain_iff` — when all links that give variables are
  plain.
-/

namespace CodeCatalog

open Syntax

namespace Extraction

/-! ## Links -/

/-- The role of an assignment statement: an assignment right below an expression statement, with a
value and without an annotation. -/
lemma of_classify_eq_assignment {p : Placed} (h : classify p = .assignment) :
    p.node.kind = "assignment" ∧ isPlainAssignment p := by
  unfold classify at h
  split at h
  · cases h
  split at h
  · cases h
  split at h
  · rename_i hplain
    simpa using hplain
  · cases h

/-- The next link of a chain is the right side if this is an assignment. -/
lemma nextLink?_eq_some_iff {link next : Node} :
    nextLink? link = some next ↔
      link.childByField? "right" = some next ∧ next.kind = "assignment" := by
  unfold nextLink?
  cases hright : link.childByField? "right" with
  | none => simp
  | some right =>
    by_cases hkind : right.kind = "assignment"
    · simp only [hkind, beq_self_eq_true, if_true, Option.some.injEq]
      constructor
      · rintro rfl
        exact ⟨rfl, hkind⟩
      · exact And.left
    · simp only [beq_iff_eq, hkind, if_false, reduceCtorEq, Option.some.injEq, false_iff]
      rintro ⟨rfl, hnext⟩
      exact hkind hnext

/-- A link of a chain that binds a value without an annotation. -/
structure IsPlainLink (link : Node) : Prop where
  value : (link.childByField? "right").isSome
  unannotated : (link.childByField? "type").isNone

/-- The name that a link of a chain binds. -/
def linkTarget? (link : Node) : Option Node := (link.childByField? "left").bind nameTarget?

/-- A unit of a file, the assignment statement that gives it, and the link of its chain. -/
structure BoundAt (filePath source : String) (root : Node) (p : Placed) (link : Node)
    (u : CodeUnit) : Prop where
  visited : p ∈ visits ⟨none, root⟩
  role : classify p = .assignment
  linked : link ∈ chain p.node
  given : (Context.ofFile filePath source).linkUnit? p.node link = some u

/-- The first link of an assignment statement is plain. -/
lemma isPlainLink_of_classify {p : Placed} (h : classify p = .assignment) :
    IsPlainLink p.node := by
  obtain ⟨-, hplain⟩ := of_classify_eq_assignment h
  unfold isPlainAssignment at hplain
  simp only [Bool.and_eq_true] at hplain
  exact ⟨hplain.1.2, hplain.2⟩

/-- A unit of a node that is a variable is given by an assignment statement. -/
lemma classify_of_mem_ownUnits {c : Context} {p : Placed} {u : CodeUnit} (hu : u ∈ c.ownUnits p)
    (hkind : u.kind = .variable) : classify p = .assignment := by
  unfold Context.ownUnits at hu
  cases hrole : classify p with
  | function =>
    simp only [hrole, Option.mem_toList, Context.functionUnit?, Option.map_eq_some_iff] at hu
    obtain ⟨name, -, rfl⟩ := hu
    cases hkind
  | classDef =>
    simp only [hrole, Option.mem_toList, Context.classUnit?, Option.map_eq_some_iff] at hu
    obtain ⟨name, -, rfl⟩ := hu
    cases hkind
  | assignment => rfl
  | other => simp [hrole] at hu

/-- Every variable of a file is bound by a link of a statement. -/
lemma exists_boundAt {filePath source : String} {root : Node} {u : CodeUnit}
    (hu : u ∈ extractUnits filePath source root) (hkind : u.kind = .variable) :
    ∃ p link, BoundAt filePath source root p link u := by
  obtain ⟨p, hvisited, hgiven⟩ := mem_extractUnits_iff.mp hu
  have hrole := classify_of_mem_ownUnits hgiven hkind
  simp only [Context.ownUnits, hrole, Context.variableUnits, List.mem_filterMap] at hgiven
  obtain ⟨link, hlink, hunit⟩ := hgiven
  exact ⟨p, link, hvisited, hrole, hlink, hunit⟩

/-- A link gives a unit if it binds a name. -/
lemma isSome_linkUnit? (c : Context) (statement link : Node) :
    (c.linkUnit? statement link).isSome = (linkTarget? link).isSome := by
  rw [Context.linkUnit?, Option.isSome_map, linkTarget?]

/-- **When variables are bound without annotations**: over every tree, each variable of a file is
bound by a link of an assignment statement. All links that bind one have a value and no annotation
if and only if this holds of all inner links that bind a name: the first link is always plain, the
others are never asked.

**Proof sketch.** The first link is plain by the role of the statement
(`isPlainLink_of_classify`), every other one is an inner link of a visited statement, and gives a
unit exactly if it binds a name (`isSome_linkUnit?`). -/
theorem extractUnits_links_plain_iff (filePath source : String) (root : Node) :
    (∀ u ∈ extractUnits filePath source root, u.kind = .variable →
        ∃ p link, BoundAt filePath source root p link u) ∧
      ((∀ p link u, BoundAt filePath source root p link u → IsPlainLink link) ↔
        ∀ p ∈ visits ⟨none, root⟩, classify p = .assignment →
          ∀ link ∈ (chain p.node).tail, (linkTarget? link).isSome → IsPlainLink link) := by
  refine ⟨fun u hu hkind => exists_boundAt hu hkind, ?_, ?_⟩
  · intro hplain p hp hrole link hlink hname
    rw [← isSome_linkUnit? (Context.ofFile filePath source) p.node] at hname
    obtain ⟨u, hu⟩ := Option.isSome_iff_exists.mp hname
    exact hplain p link u ⟨hp, hrole, List.mem_of_mem_tail hlink, hu⟩
  · intro hinner p link u h
    have hlink := h.linked
    rw [chain_eq] at hlink
    rcases List.mem_cons.mp hlink with rfl | hrest
    · exact isPlainLink_of_classify h.role
    · refine hinner p h.visited h.role link (by rw [chain_eq]; exact hrest) ?_
      rw [← isSome_linkUnit? (Context.ofFile filePath source) p.node, h.given]
      rfl

/-! ### A chain whose second link is annotated -/

/-- The inner link `b: int = 1`. -/
def annotatedLink : Node :=
  sampleNode "assignment" (some "right")
    [sampleNode "identifier" (some "left") [], sampleNode "type" (some "type") [],
      sampleNode "integer" (some "right") []]

/-- The statement `a = b: int = 1`. -/
def annotatedChain : Node :=
  sampleNode "assignment" none [sampleNode "identifier" (some "left") [], annotatedLink]

/-- A file with the statement. -/
def annotatedChainFile : Node :=
  sampleNode "module" none [sampleNode "expression_statement" none [annotatedChain]]

/-- The annotated link binds a variable. -/
theorem annotatedChainFile_bound :
    ∃ p link u, BoundAt "a.py" "class C" annotatedChainFile p link u ∧ ¬ IsPlainLink link := by
  by_contra hnone
  let p : Placed := ⟨some (sampleNode "expression_statement" none [annotatedChain]), annotatedChain⟩
  have hvisited : p ∈ visits ⟨none, annotatedChainFile⟩ := by
    simp [visits_eq, Placed.namedChildren, Node.namedChildren, Node.children, Node.info, p,
      annotatedChainFile, annotatedChain, annotatedLink, sampleNode]
  have hlink : annotatedLink ∈ (chain annotatedChain).tail := by
    have hnext : nextLink? annotatedChain = some annotatedLink := rfl
    rw [chain_eq, hnext, Option.map_some, Option.getD_some, chain_eq]
    exact List.mem_cons_self
  have hname : (linkTarget? annotatedLink).isSome := by
    have hleft : annotatedLink.childByField? "left" =
      some (sampleNode "identifier" (some "left") []) := rfl
    rw [linkTarget?, hleft, Option.bind_some, nameTarget?_eq]
    rfl
  have hplain := (extractUnits_links_plain_iff "a.py" "class C" annotatedChainFile).2.mp
    (fun p link u h => by_contra fun hannotated => hnone ⟨p, link, u, h, hannotated⟩)
    p hvisited rfl annotatedLink hlink hname
  exact absurd hplain.unannotated (by decide)

end Extraction

end CodeCatalog
