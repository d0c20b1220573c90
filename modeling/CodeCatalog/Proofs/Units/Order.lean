import CodeCatalog.Proofs.Units.Nesting

/-!
# The order of units

The walk visits a node before everything below it, and what is below its children from left to
right. Over a well-formed tree it meets the nodes in the order in which they begin, whatever the
depths of the nodes that wait on the stack. Units come in the order of the nodes that give them, so
their first lines never go back, and the unit of a definition comes before the units inside it.

## Main definitions

* `CodeCatalog.Extraction.Context.placedUnits` — the units of a file, with the positions of the
  nodes that give them.

## Main results

* `CodeCatalog.Extraction.pairwise_startByte_visits` — the walk meets nodes in the order in which
  they begin.
* `CodeCatalog.Extraction.Context.pairwise_placedUnits` — nothing comes behind what is inside it.
* `CodeCatalog.Extraction.extractUnits_in_order` — the units of a file are in order.
-/

namespace CodeCatalog.Extraction

open Syntax

/-! ## The order of the walk -/

/-- **The walk meets nodes in the order in which they begin.**

**Proof sketch.** Induction over the tree. What is visited below a node stands inside it. What is
visited from one child ends before the children to its right begin. -/
lemma pairwise_startByte_visits {source : List Char} {p : Placed}
    (h : p.node.WellFormed source) :
    (visits p).Pairwise fun a b => a.node.info.startByte ≤ b.node.info.startByte := by
  induction p using namedChildren_induction with
  | step p ih =>
    have hchild : ∀ n ∈ p.node.namedChildren, n.WellFormed source := fun n hn =>
      h.of_mem_children (Node.mem_children_of_mem_namedChildren hn)
    rw [visits_eq]
    refine List.pairwise_cons.mpr ⟨fun q hq => ?_, List.pairwise_flatMap.mpr ⟨?_, ?_⟩⟩
    · have hvisited : q ∈ visits p := by
        rw [visits_eq]
        exact List.mem_cons_of_mem _ hq
      exact (h.within (within_of_mem_visits hvisited)).2.1
    · intro q hq
      obtain ⟨n, hn, rfl⟩ := List.mem_map.mp hq
      exact ih _ hq (hchild n hn)
    · refine List.pairwise_map.mpr ((h.arranged.ordered.filter _).imp_of_mem ?_)
      intro left right hleft hright hle a ha b hb
      obtain ⟨hawf, -, hastop⟩ := (hchild left hleft).within (within_of_mem_visits ha)
      obtain ⟨-, hbstart, -⟩ := (hchild right hright).within (within_of_mem_visits hb)
      have horder := hawf.stands.order
      omega

/-! ## Units and their positions -/

namespace Context

variable (c : Context)

/-- The units of a file in the order of the walk, each with the position of the node that gives
it. -/
def placedUnits (top : Placed) : List (List Nat × CodeUnit) :=
  top.node.namedPositions.flatMap fun pos =>
    (((top.namedAt? pos).map c.ownUnits).getD []).map (Prod.mk pos)

/-- The units at the positions are those that the walk meets. -/
lemma map_snd_placedUnits (top : Placed) : (c.placedUnits top).map Prod.snd = c.walk top := by
  calc (c.placedUnits top).map Prod.snd
      = (top.node.namedPositions.map top.namedAt?).flatMap fun p => (p.map c.ownUnits).getD [] := by
        rw [placedUnits, List.map_flatMap, List.flatMap_map]
        simp [Function.comp_def]
    _ = c.walk top := by
        rw [← map_visits, List.flatMap_map, walk_eq_flatMap_visits]
        rfl

/-- The units at a position are those of the node that is reached there. -/
lemma mem_placedUnits_iff {top : Placed} {pos : List Nat} {u : CodeUnit} :
    (pos, u) ∈ c.placedUnits top ↔ ∃ p, top.namedAt? pos = some p ∧ u ∈ c.ownUnits p := by
  rw [placedUnits, List.mem_flatMap]
  constructor
  · rintro ⟨pos', -, hmem⟩
    obtain ⟨v, hv, heq⟩ := List.mem_map.mp hmem
    obtain ⟨rfl, rfl⟩ := Prod.mk.inj heq
    cases hp : top.namedAt? pos' with
    | none => simp [hp] at hv
    | some p => exact ⟨p, rfl, by simpa [hp] using hv⟩
  · rintro ⟨p, hp, hu⟩
    refine ⟨pos, (top.mem_namedPositions_iff pos).mpr (by rw [hp]; rfl), ?_⟩
    rw [hp]
    exact List.mem_map_of_mem hu

/-- No unit stands in front of one whose position comes before its own. -/
lemma pairwise_placedUnits (top : Placed) :
    (c.placedUnits top).Pairwise fun a b => ¬ b.1 < a.1 := by
  refine List.pairwise_flatMap.mpr ⟨fun pos _ => ?_, ?_⟩
  · exact List.pairwise_map.mpr (List.pairwise_of_forall fun _ _ => List.lt_irrefl pos)
  · refine (Node.pairwise_namedPositions top.node).imp fun hlt a ha b hb => ?_
    obtain ⟨u, -, rfl⟩ := List.mem_map.mp ha
    obtain ⟨v, -, rfl⟩ := List.mem_map.mp hb
    exact List.lt_asymm hlt

end Context

/-- A position is before every position that goes on from it. -/
lemma lt_append_of_ne_nil (pos : List Nat) {inside : List Nat} (h : inside ≠ []) :
    pos < pos ++ inside := by
  induction pos with
  | nil =>
    cases inside with
    | nil => exact absurd rfl h
    | cons i rest => exact List.nil_lt_cons i rest
  | cons i pos ih => exact List.cons_lt_cons_iff.mpr (Or.inr ⟨rfl, ih⟩)

/-- All units of a node begin on the line of the node. -/
lemma Context.startLine_of_mem_ownUnits {c : Context} {p : Placed} {u : CodeUnit}
    (hu : u ∈ c.ownUnits p) : u.startLine = p.node.info.start.row + 1 := by
  obtain ⟨name, -, hloc⟩ := Context.exists_locates_of_mem_ownUnits hu
  exact hloc.startLine

/-- The first lines of units never go back. -/
lemma pairwise_startLine_extractUnits (filePath source : String) {root : Node}
    (hroot : root.WellFormed source.toList) :
    (extractUnits filePath source root).Pairwise fun u v => u.startLine ≤ v.startLine := by
  rw [extractUnits, Context.walk_eq_flatMap_visits]
  refine List.pairwise_flatMap.mpr ⟨fun p _ => ?_, ?_⟩
  · have hany := List.pairwise_of_forall (l := (Context.ofFile filePath source).ownUnits p)
      (R := fun _ _ => True) fun _ _ => trivial
    refine hany.imp_of_mem fun hu hv _ => ?_
    rw [Context.startLine_of_mem_ownUnits hu, Context.startLine_of_mem_ownUnits hv]
  · refine (pairwise_startByte_visits hroot).imp_of_mem fun hp hq hle u hu v hv => ?_
    have hpwf := (hroot.within (within_of_mem_visits hp)).1
    have hqwf := (hroot.within (within_of_mem_visits hq)).1
    rw [Context.startLine_of_mem_ownUnits hu, Context.startLine_of_mem_ownUnits hv]
    exact Nat.succ_le_succ (hpwf.stands.start.row_le hqwf.stands.start hle)

/-- **Units come out in source order**: over every tree that is well formed over a source, the first
lines of the units of a file never go back. With the positions of the nodes that give them, the
units of a file are listed so that the unit of a definition comes before every unit of a node inside
it.

**Proof sketch.** The units of a node begin on the line of the node, and the walk meets nodes in the
order in which they begin (`pairwise_startByte_visits`). The positions of the units are in order
(`Context.pairwise_placedUnits`), and a position is before all that go on from it. -/
theorem extractUnits_in_order (filePath source : String) (root : Node)
    (hroot : root.WellFormed source.toList) :
    (extractUnits filePath source root).Pairwise (fun u v => u.startLine ≤ v.startLine) ∧
      ∃ placed : List (List Nat × CodeUnit),
        placed.map Prod.snd = extractUnits filePath source root ∧
        (∀ pos u, (pos, u) ∈ placed ↔ ∃ p, (Placed.mk none root).namedAt? pos = some p ∧
          u ∈ (Context.ofFile filePath source).ownUnits p) ∧
        ∀ (i j : Nat) pos inside u v, placed[i]? = some (pos, u) →
          placed[j]? = some (pos ++ inside, v) → inside ≠ [] → i < j := by
  let c := Context.ofFile filePath source
  refine ⟨pairwise_startLine_extractUnits filePath source hroot, c.placedUnits ⟨none, root⟩,
    c.map_snd_placedUnits _, fun pos u => c.mem_placedUnits_iff, ?_⟩
  intro i j pos inside u v hi hj hinside
  by_contra hle
  obtain ⟨hilt, hiu⟩ := List.getElem?_eq_some_iff.mp hi
  obtain ⟨hjlt, hjv⟩ := List.getElem?_eq_some_iff.mp hj
  rcases Nat.lt_or_eq_of_le (Nat.le_of_not_lt hle) with hlt | rfl
  · have hpositions := List.pairwise_iff_getElem.mp (c.pairwise_placedUnits ⟨none, root⟩) j i
      hjlt hilt hlt
    rw [hiu, hjv] at hpositions
    exact hpositions (lt_append_of_ne_nil pos hinside)
  · rw [hiu] at hjv
    exact hinside (List.self_eq_append_right.mp (Prod.mk.inj hjv).1)

/-- In the file with a class and an assignment in it, the class comes before the variable. -/
theorem spreadFile_in_order :
    spreadFile.WellFormed spreadSource.toList ∧
      ∃ (i j : Nat) (u v : CodeUnit),
        (extractUnits "a.py" spreadSource spreadFile)[i]? = some u ∧
        (extractUnits "a.py" spreadSource spreadFile)[j]? = some v ∧
        u.name = "A" ∧ v.name = "x" ∧ i < j := by
  have hwf : spreadFile.WellFormed spreadSource.toList := by decide
  let c := Context.ofFile "a.py" spreadSource
  obtain ⟨-, placed, hunits, hplaced, horder⟩ :=
    extractUnits_in_order "a.py" spreadSource spreadFile hwf
  let u := c.unit .classDef "A" [] none (some []) (definitionSpan spreadClass c.lines)
  let v := c.unit .variable "x" [] none none
    (assignmentSpan spreadAssignment spreadTarget c.lines)
  have hu : ([0], u) ∈ placed := (hplaced [0] u).mpr
    ⟨⟨some spreadFile, spreadClass⟩, rfl, List.mem_singleton_self u⟩
  have hv : ([0] ++ [1, 0, 0], v) ∈ placed := by
    refine (hplaced _ v).mpr ⟨⟨some spreadStatement, spreadAssignment⟩, rfl, ?_⟩
    rw [ownUnits_spreadAssignment]
    exact List.mem_singleton_self v
  obtain ⟨i, hi⟩ := List.mem_iff_getElem?.mp hu
  obtain ⟨j, hj⟩ := List.mem_iff_getElem?.mp hv
  refine ⟨hwf, i, j, u, v, ?_, ?_, rfl, rfl, horder i j [0] [1, 0, 0] u v hi hj (by simp)⟩
  · rw [← hunits, List.getElem?_map, hi]
    rfl
  · rw [← hunits, List.getElem?_map, hj]
    rfl

end CodeCatalog.Extraction
