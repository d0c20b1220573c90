import Mathlib.Tactic.Lemma
import CodeCatalog.Syntax.Node

/-!
# Syntax trees that are moved down

When a source is put behind another one, every node of its tree stands further down, by the lines
and the bytes in front of it. Columns stay, and so does all that is found among children.

## Main definitions

* `CodeCatalog.Syntax.Node.moved` — a tree moved down by rows and bytes.

## Main results

* `CodeCatalog.Syntax.Node.moved_zero` — a tree that is moved by nothing.
* `CodeCatalog.Syntax.Node.namedChildren_moved`, `childByField?_moved` — access to children.
-/

namespace CodeCatalog

namespace Syntax

/-! ## Moving -/

/-- A place moved down. -/
def Point.moved (rows : Nat) (p : Point) : Point := ⟨p.row + rows, p.column⟩

/-- What is known about a node, moved down by rows and bytes. -/
def NodeInfo.moved (rows bytes : Nat) (i : NodeInfo) : NodeInfo :=
  { i with
    startByte := i.startByte + bytes, endByte := i.endByte + bytes
    start := i.start.moved rows, stop := i.stop.moved rows }

namespace Node

mutual

/-- A tree moved down by rows and bytes. -/
def moved (rows bytes : Nat) : Node → Node
  | .mk info children => .mk (info.moved rows bytes) (movedAll rows bytes children)

/-- Several trees moved down by rows and bytes. -/
def movedAll (rows bytes : Nat) : List Node → List Node
  | [] => []
  | n :: ns => n.moved rows bytes :: movedAll rows bytes ns

end

/-- Moving some nodes is moving each of them. -/
lemma movedAll_eq_map (rows bytes : Nat) (ns : List Node) :
    movedAll rows bytes ns = ns.map (moved rows bytes) := by
  induction ns with
  | nil => rfl
  | cons n ns ih => rw [movedAll, ih, List.map_cons]

mutual

/-- A tree that is moved by nothing stays where it is. -/
theorem moved_zero : (n : Node) → n.moved 0 0 = n
  | .mk info children => by
    rw [moved, movedAll_zero children]
    rfl

/-- Trees that are moved by nothing stay where they are. -/
theorem movedAll_zero : (ns : List Node) → movedAll 0 0 ns = ns
  | [] => rfl
  | n :: ns => by rw [movedAll, moved_zero n, movedAll_zero ns]

end

section Access

variable (rows bytes : Nat) (n : Node)

/-- What is known about a moved node is what was known about it, moved. -/
@[simp] lemma info_moved : (n.moved rows bytes).info = n.info.moved rows bytes := by
  cases n
  rfl

/-- The children of a moved node are moved with it. -/
@[simp] lemma children_moved :
    (n.moved rows bytes).children = n.children.map (moved rows bytes) := by
  cases n
  exact movedAll_eq_map rows bytes _

/-- A moved node keeps its kind. -/
@[simp] lemma kind_moved : (n.moved rows bytes).kind = n.kind := by
  rw [kind, info_moved]
  rfl

/-- A moved node is a comment exactly if it was one. -/
@[simp] lemma isComment_moved : (n.moved rows bytes).isComment = n.isComment := by
  rw [isComment, kind_moved, isComment]

/-- A moved node is named exactly if it was. -/
@[simp] lemma named_moved : (n.moved rows bytes).info.named = n.info.named := by
  rw [info_moved]
  rfl

/-- A moved node keeps its role. -/
@[simp] lemma field_moved : (n.moved rows bytes).info.field = n.info.field := by
  rw [info_moved]
  rfl

/-- The named children of a moved node are moved with it. -/
lemma namedChildren_moved :
    (n.moved rows bytes).namedChildren = n.namedChildren.map (moved rows bytes) := by
  rw [namedChildren, children_moved, List.filter_map, namedChildren]
  simp only [Function.comp_def, named_moved]

/-- The child of a moved node with a role is moved with it. -/
lemma childByField?_moved (field : String) :
    (n.moved rows bytes).childByField? field = (n.childByField? field).map (moved rows bytes) := by
  rw [childByField?, children_moved, List.find?_map, childByField?]
  simp only [Function.comp_def, field_moved]

end Access

end Node

end Syntax

end CodeCatalog
