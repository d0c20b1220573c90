import CodeCatalog.Units.Basic
import CodeCatalog.Units.Span

/-!
# Extracting units from a syntax tree

Every function definition, class definition and plain assignment statement of a tree gives
units, in the order of a walk that visits a node before its named children.

## Main definitions

* `CodeCatalog.classify` — the role of a node.
* `CodeCatalog.Extraction.Context.ownUnits` — the units of one node.
* `CodeCatalog.Extraction.gather` — the walk, with a stack of nodes still to visit.
* `CodeCatalog.Extraction.Context.walk` — the units that the walk meets.
* `CodeCatalog.Extraction.Context.unitsBelow` — the same units by recursion over the tree.
* `CodeCatalog.extractUnits` — the units of a file.
-/

namespace CodeCatalog

open Syntax

/-! ## Roles of nodes -/

/-- The role of a node, as far as the catalog is concerned. -/
inductive Role where
  | function
  | classDef
  /-- A statement `target = value`, possibly a chain of them. -/
  | assignment
  | other
deriving Repr, BEq, DecidableEq, Inhabited

/-- A node and the node above it. -/
structure Placed where
  parent : Option Node
  node : Node
deriving Inhabited

/-- Whether an assignment is a whole statement and binds a value without an annotation. -/
def isPlainAssignment (p : Placed) : Bool :=
  (match p.parent with
    | some parent => parent.kind == "expression_statement"
    | none => false) &&
  (p.node.childByField? "right").isSome && (p.node.childByField? "type").isNone

/-- The role of a node. -/
def classify (p : Placed) : Role :=
  if p.node.kind == "function_definition" then .function
  else if p.node.kind == "class_definition" then .classDef
  else if p.node.kind == "assignment" && isPlainAssignment p then .assignment
  else .other

/-- The named children of a placed node, placed. -/
def Placed.namedChildren (p : Placed) : List Placed :=
  p.node.namedChildren.map fun c => ⟨some p.node, c⟩

/-- The number of nodes of the trees of a list of placed nodes. -/
def Placed.sizeList (ps : List Placed) : Nat := Node.sizeList (ps.map (·.node))

/-- The size of the first node is added to that of the others. -/
theorem Placed.sizeList_cons (p : Placed) (ps : List Placed) :
    sizeList (p :: ps) = p.node.size + sizeList ps := by simp [sizeList, Node.sizeList]

/-- The sizes of two lists of placed nodes are added up. -/
theorem Placed.sizeList_append (ps qs : List Placed) :
    sizeList (ps ++ qs) = sizeList ps + sizeList qs := by
  simp [sizeList, Node.sizeList_append]

/-- The named children of a node are together smaller than the node. -/
theorem Placed.sizeList_namedChildren_lt (p : Placed) :
    sizeList p.namedChildren < p.node.size := by
  have h := Node.sizeList_namedChildren_lt p.node
  simpa [sizeList, namedChildren, Function.comp_def] using h

/-! ## Names -/

/-- The first child with a role is a child. -/
theorem mem_children_of_childByField? {n c : Node} {f : String}
    (h : n.childByField? f = some c) : c ∈ n.children :=
  List.mem_of_find?_eq_some h

/-- The first named child that is no comment. -/
def firstCodeChild? (n : Node) : Option Node :=
  n.namedChildren.find? fun c => !c.isComment

/-- The first child that is no comment is a child. -/
theorem mem_children_of_firstCodeChild? {n c : Node} (h : firstCodeChild? n = some c) :
    c ∈ n.children :=
  (List.mem_filter.mp (List.mem_of_find?_eq_some h)).1

/-- The text of an expression that is a plain name, possibly in parentheses. -/
def bareName? (source : List Char) (n : Node) : Option String :=
  if n.kind == "identifier" then some (n.text source)
  else if n.kind == "parenthesized_expression" then
    match _h : firstCodeChild? n with
    | some inner => bareName? source inner
    | none => none
  else none
termination_by n.size
decreasing_by exact Node.size_lt_of_mem_children (mem_children_of_firstCodeChild? _h)

/-- The only named child that is no comment, in parentheses without a comma. -/
def onlyInside? (n : Node) : Option Node :=
  if n.children.any (·.kind == ",") then none
  else
    match n.namedChildren.filter (fun c => !c.isComment) with
    | [inner] => some inner
    | _ => none

/-- The only node in a target is one of its children. -/
theorem mem_children_of_onlyInside? {n c : Node} (h : onlyInside? n = some c) :
    c ∈ n.children := by
  unfold onlyInside? at h
  split at h
  · cases h
  · split at h
    · rename_i inner heq
      cases h
      have : c ∈ n.namedChildren.filter (fun c => !c.isComment) := by rw [heq]; simp
      exact (List.mem_filter.mp (List.mem_filter.mp this).1).1
    · cases h

/-- The name that an assignment target binds: a plain name, possibly in parentheses. A tuple
binds none. -/
def nameTarget? (target : Node) : Option Node :=
  if target.kind == "identifier" then some target
  else if target.kind == "tuple_pattern" || target.kind == "parenthesized_expression" then
    match _h : onlyInside? target with
    | some inner => nameTarget? inner
    | none => none
  else none
termination_by target.size
decreasing_by exact Node.size_lt_of_mem_children (mem_children_of_onlyInside? _h)

namespace Extraction

/-! ## Parts of definitions -/

/-- What the units of a file have in common. -/
structure Context where
  filePath : String
  source : List Char
  lines : List String

/-- The text of a node. -/
def Context.textOf (c : Context) (n : Node) : String := n.text c.source

/-- The name of a definition. -/
def Context.nameOf? (c : Context) (definition : Node) : Option String :=
  (definition.childByField? "name").map c.textOf

/-- The decorators of a definition that are plain names, in order. -/
def Context.decoratorsOf (c : Context) (p : Placed) : List String :=
  match p.parent with
  | none => []
  | some parent =>
    if parent.kind == "decorated_definition" then
      (parent.namedChildren.filter (·.kind == "decorator")).filterMap fun d =>
        (firstCodeChild? d).bind (bareName? c.source)
    else []

/-- The base classes that are plain names, in order. -/
def Context.baseNames (c : Context) (arguments : Node) : List String :=
  arguments.namedChildren.filterMap (bareName? c.source)

/-- The names of the parameters from a list that are positional or keyword, behind the names
already gathered. A slash makes the names before it positional only; from the first star on
the parameters are keyword only or variadic. -/
def Context.gatherParameters (c : Context) (names : List String) : List Node → List String
  | [] => names
  | p :: ps =>
    if p.kind == "identifier" then gatherParameters c (names ++ [c.textOf p]) ps
    else if p.kind == "typed_parameter" then
      match p.namedChildren.head? with
      | some first =>
        if first.kind == "identifier" then gatherParameters c (names ++ [c.textOf first]) ps
        else names
      | none => names
    else if p.kind == "default_parameter" || p.kind == "typed_default_parameter" then
      match p.childByField? "name" with
      | some name =>
        if name.kind == "identifier" then gatherParameters c (names ++ [c.textOf name]) ps
        else gatherParameters c names ps
      | none => gatherParameters c names ps
    else if p.kind == "positional_separator" then gatherParameters c [] ps
    else if p.kind == "list_splat_pattern" || p.kind == "dictionary_splat_pattern" ||
        p.kind == "keyword_separator" then names
    else gatherParameters c names ps

/-- The names of the positional parameters of a parameter list. -/
def Context.positionalParameters (c : Context) (parameters : Node) : List String :=
  c.gatherParameters [] parameters.namedChildren

/-! ## Units of a node -/

/-- A unit of a file. -/
def Context.unit (c : Context) (kind : UnitKind) (name : String) (decorators : List String)
    (parameters baseTypes : Option (List String)) (span : Span) : CodeUnit :=
  { kind, name, decorators, parameters, baseTypes
    sourceText := span.text, filePath := c.filePath
    startLine := span.startLine, endLine := span.endLine
    startCol := span.startCol, endCol := span.endCol }

/-- The unit of a function definition. -/
def Context.functionUnit? (c : Context) (p : Placed) : Option CodeUnit :=
  (c.nameOf? p.node).map fun name =>
    let parameters := ((p.node.childByField? "parameters").map c.positionalParameters).getD []
    c.unit .function name (c.decoratorsOf p) (some parameters) none
      (definitionSpan p.node c.lines)

/-- The unit of a class definition. -/
def Context.classUnit? (c : Context) (p : Placed) : Option CodeUnit :=
  (c.nameOf? p.node).map fun name =>
    let bases := ((p.node.childByField? "superclasses").map c.baseNames).getD []
    c.unit .classDef name (c.decoratorsOf p) none (some bases) (definitionSpan p.node c.lines)

/-- The unit of the target of one link of a chain of assignments; it covers the whole
statement. -/
def Context.linkUnit? (c : Context) (statement link : Node) : Option CodeUnit :=
  ((link.childByField? "left").bind nameTarget?).map fun target =>
    c.unit .variable (c.textOf target) [] none none (assignmentSpan statement target c.lines)

/-- The next link of a chain of assignments. -/
def nextLink? (link : Node) : Option Node :=
  match link.childByField? "right" with
  | some right => if right.kind == "assignment" then some right else none
  | none => none

/-- The next link of a chain is a child of the link before. -/
theorem mem_children_of_nextLink? {n c : Node} (h : nextLink? n = some c) : c ∈ n.children := by
  unfold nextLink? at h
  split at h
  · rename_i right hr
    split at h
    · cases h; exact mem_children_of_childByField? hr
    · cases h
  · cases h

/-- The links of a chain of assignments, from left to right. -/
def chain (link : Node) : List Node :=
  match _h : nextLink? link with
  | some next => link :: chain next
  | none => [link]
termination_by link.size
decreasing_by exact Node.size_lt_of_mem_children (mem_children_of_nextLink? _h)

/-- The units of an assignment statement: one for each link whose target is a name. -/
def Context.variableUnits (c : Context) (statement : Node) : List CodeUnit :=
  (chain statement).filterMap (c.linkUnit? statement)

/-- The units that a node itself gives. -/
def Context.ownUnits (c : Context) (p : Placed) : List CodeUnit :=
  match classify p with
  | .function => (c.functionUnit? p).toList
  | .classDef => (c.classUnit? p).toList
  | .assignment => c.variableUnits p.node
  | .other => []

/-! ## The walk -/

/-- Pushes nodes onto a stack, one after the other. The top of a stack is its first node. -/
def push (stack ps : List Placed) : List Placed := ps.foldl (fun stack p => p :: stack) stack

/-- Nodes that are pushed from the last one on stand on the stack in order. -/
theorem push_reverse (stack ps : List Placed) : push stack ps.reverse = ps ++ stack := by
  simp [push]

/-- The walk with a stack: the node on top is taken off, what it gives is put in front of what
has been gathered (in reverse), and its named children are pushed from right to left, so that
the leftmost comes next. -/
def gather (own : Placed → List α) (gathered : List α) : List Placed → List α
  | [] => gathered.reverse
  | p :: stack =>
    gather own ((own p).reverse ++ gathered) (push stack p.namedChildren.reverse)
termination_by stack => Placed.sizeList stack
decreasing_by
  rw [push_reverse, Placed.sizeList_append, Placed.sizeList_cons]
  have := Placed.sizeList_namedChildren_lt p
  omega

/-- The nodes that the walk from a node visits, in order. -/
def visits (p : Placed) : List Placed := gather (fun q => [q]) [] [p]

/-- The units that the walk from a node meets, in order. -/
def Context.walk (c : Context) (p : Placed) : List CodeUnit := gather c.ownUnits [] [p]

/-- What a node and everything below it give, by recursion: what the node itself gives, then what
its named children give from left to right. -/
def below (own : Placed → List α) (p : Placed) : List α :=
  own p ++ p.namedChildren.attach.flatMap fun ⟨q, _⟩ => below own q
termination_by p.node.size
decreasing_by
  rename_i h
  obtain ⟨n, hn, rfl⟩ := List.mem_map.mp h
  exact Node.size_lt_of_mem_children (List.mem_filter.mp hn).1

/-- The units of a node and of everything below it, by recursion. -/
def Context.unitsBelow (c : Context) (p : Placed) : List CodeUnit := below c.ownUnits p

end Extraction

/-- What the units of a file with a path and a text have in common. -/
def Extraction.Context.ofFile (filePath source : String) : Extraction.Context where
  filePath
  source := source.toList
  lines := Text.physicalLines source

/-- The units of a file, in source order. -/
def extractUnits (filePath source : String) (root : Node) : List CodeUnit :=
  (Extraction.Context.ofFile filePath source).walk ⟨none, root⟩

end CodeCatalog
