import CodeCatalog.Text.Bytes

/-!
# Syntax trees

The tree of a source file as the catalog sees it: nodes with a kind, a place in the source,
a role in their parent, and children. Named nodes stand for rules of the grammar, the others
for punctuation and keywords.

## Main definitions

* `CodeCatalog.Syntax.Node` — a node with its children.
* `CodeCatalog.Syntax.Node.namedChildren`, `childByField?` — access to children.
* `CodeCatalog.Syntax.Node.size` — the number of nodes, a measure for walks.
-/

namespace CodeCatalog.Syntax

/-- A place in the source: line feeds before it, and bytes since the last one. -/
structure Point where
  row : Nat
  column : Nat
deriving Repr, BEq, DecidableEq, Inhabited

/-- What is known about a node besides its children. -/
structure NodeInfo where
  kind : String
  /-- Whether the node stands for a rule of the grammar. -/
  named : Bool := true
  /-- The role of the node in its parent. -/
  field : Option String := none
  startByte : Nat
  endByte : Nat
  start : Point
  stop : Point
  /-- Whether the node covers something that could not be parsed. -/
  isError : Bool := false
  /-- Whether the node is a token that is not in the source. -/
  isMissing : Bool := false
  /-- Whether there is an error anywhere in the node. -/
  hasError : Bool := false
deriving Repr, BEq, DecidableEq, Inhabited

/-- A node of a syntax tree. -/
inductive Node where
  | mk (info : NodeInfo) (children : List Node)
deriving Repr, Inhabited

namespace Node

/-- What is known about the node besides its children. -/
def info : Node → NodeInfo
  | .mk i _ => i

/-- The children from left to right. -/
def children : Node → List Node
  | .mk _ cs => cs

/-- The kind of the node. -/
def kind (n : Node) : String := n.info.kind

/-- Whether the node is a comment. -/
def isComment (n : Node) : Bool := n.kind == "comment"

/-- The children that stand for rules of the grammar. -/
def namedChildren (n : Node) : List Node := n.children.filter (·.info.named)

/-- The first child with a role. -/
def childByField? (n : Node) (field : String) : Option Node :=
  n.children.find? (·.info.field == some field)

/-- The source text of the node. -/
def text (source : List Char) (n : Node) : String :=
  Text.between source n.info.startByte n.info.endByte

/-- Gives the node another role. -/
def withField (n : Node) (field : String) : Node :=
  match n with
  | .mk i cs => .mk { i with field := some field } cs

/-! ## Size -/

mutual

/-- The number of nodes of a tree. -/
def size : Node → Nat
  | .mk _ cs => 1 + sizeList cs

/-- The number of nodes of a list of trees. -/
def sizeList : List Node → Nat
  | [] => 0
  | n :: ns => n.size + sizeList ns

end

/-- Leaving nodes out does not add to their size. -/
theorem sizeList_filter_le (p : Node → Bool) (ns : List Node) :
    sizeList (ns.filter p) ≤ sizeList ns := by
  induction ns with
  | nil => simp
  | cons n ns ih =>
    by_cases h : p n <;> simp [h, sizeList] <;> omega

/-- The sizes of two lists of nodes are added up. -/
theorem sizeList_append (ms ns : List Node) :
    sizeList (ms ++ ns) = sizeList ms + sizeList ns := by
  induction ms with
  | nil => simp [sizeList]
  | cons m ms ih => simp [sizeList, ih]; omega

/-- The children of a node have fewer nodes than the node. -/
theorem sizeList_children_lt (n : Node) : sizeList n.children < n.size := by
  cases n; simp [children, size]

/-- The named children of a node have fewer nodes than the node. -/
theorem sizeList_namedChildren_lt (n : Node) : sizeList n.namedChildren < n.size :=
  Nat.lt_of_le_of_lt (sizeList_filter_le _ _) (sizeList_children_lt n)

/-- A node is no larger than a list it is in. -/
theorem size_le_sizeList {n : Node} {ns : List Node} (h : n ∈ ns) : n.size ≤ sizeList ns := by
  induction ns with
  | nil => cases h
  | cons m ms ih =>
    simp only [sizeList]
    rcases List.mem_cons.mp h with rfl | h
    · omega
    · have := ih h; omega

/-- A child has fewer nodes than its parent. -/
theorem size_lt_of_mem_children {c n : Node} (h : c ∈ n.children) : c.size < n.size :=
  Nat.lt_of_le_of_lt (size_le_sizeList h) (sizeList_children_lt n)

end Node

end CodeCatalog.Syntax
