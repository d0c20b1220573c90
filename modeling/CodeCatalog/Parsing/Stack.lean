import CodeCatalog.Parsing.Subtree

/-!
# The parser's stack

A parser that follows several actions side by side keeps several versions of its stack. The
versions share what they have in common: the stack is a graph of nodes, each with links to the
nodes below it, and a version is a pointer to the node on top. Versions that reach the same
state at the same position are merged, so that a node may have several links.

## Main definitions

* `CodeCatalog.Parsing.Stack` — the nodes and the versions.
* `CodeCatalog.Parsing.Stack.push`, `popCount`, `merge` — the operations of a parser.
-/

namespace CodeCatalog.Parsing

open Grammar Python

/-! ## Nodes and versions -/

/-- A link to the node below, with the subtree between the two nodes. A link without a subtree
marks where an error was met. -/
structure Link where
  node : Nat
  tree : Option Subtree
deriving Inhabited

/-- A node of the stack: the state of the parser, the position reached, and totals over the
best way down. -/
structure StackNode where
  state : Nat
  position : Position
  links : Array Link := #[]
  errorCost : Nat := 0
  nodeCount : Nat := 0
  rank : Int := 0
deriving Inhabited

/-- A state found below the top of a stack: how deep it lies and at which position. -/
structure Depth where
  position : Position
  depth : Nat
  state : Nat
deriving Inhabited

/-- Whether a version goes on, waits for the outcome of the others, or has ended. -/
inductive Status where
  | active
  | paused (lookahead : Subtree)
  | halted
deriving Inhabited

/-- A version of the stack. -/
structure Version where
  node : Nat
  /-- The number of nodes when the last error was met. -/
  nodesAtError : Nat := 0
  /-- What the layout scanner remembers after its last token. -/
  layout : Option Layout := none
  status : Status := .active
  /-- The states below the place of the last error. -/
  depths : Option (Array Depth) := none
deriving Inhabited

/-- Whether a version goes on. -/
def Version.isActive (v : Version) : Bool :=
  match v.status with
  | .active => true
  | _ => false

/-- Whether a version waits for the outcome of the others. -/
def Version.isPaused (v : Version) : Bool :=
  match v.status with
  | .paused _ => true
  | _ => false

/-- Whether a version has ended. -/
def Version.isHalted (v : Version) : Bool :=
  match v.status with
  | .halted => true
  | _ => false

/-- The stack of a parser: its nodes and its versions. -/
structure Stack where
  nodes : Array StackNode
  versions : Array Version
deriving Inhabited

namespace Stack

/-- The most links that a node may have. -/
def maxLinks : Nat := 8

/-- The most ways down that are followed at once. -/
def maxWays : Nat := 64

/-- The stack of a parser in its first state. -/
def initial : Stack :=
  { nodes := #[{ state := Automaton.startState, position := {} }], versions := #[{ node := 0 }] }

/-- A node by its number. -/
def nodeAt (s : Stack) (n : Nat) : StackNode := s.nodes.getD n default

/-- A version by its number. -/
def version (s : Stack) (v : Nat) : Version := s.versions.getD v default

/-- The node on top of a version. -/
def top (s : Stack) (v : Nat) : StackNode := s.nodeAt (s.version v).node

/-- The state of a version. -/
def state (s : Stack) (v : Nat) : Nat := (s.top v).state

/-- The position of a version. -/
def position (s : Stack) (v : Nat) : Position := (s.top v).position

/-- The number of versions. -/
def count (s : Stack) : Nat := s.versions.size

/-- Changes a version. -/
def modifyVersion (s : Stack) (v : Nat) (f : Version → Version) : Stack :=
  { s with versions := s.versions.modify v f }

/-- Ends a version. -/
def halt (s : Stack) (v : Nat) : Stack :=
  s.modifyVersion v fun h => { h with status := .halted }

/-- Lets a version wait with its next token. -/
def pause (s : Stack) (v : Nat) (lookahead : Subtree) : Stack :=
  let count := (s.top v).nodeCount
  s.modifyVersion v fun h => { h with status := .paused lookahead, nodesAtError := count }

/-- Removes a version. -/
def removeVersion (s : Stack) (v : Nat) : Stack :=
  { s with versions := s.versions.eraseIdxIfInBounds v }

/-- Adds a copy of a version. -/
def copyVersion (s : Stack) (v : Nat) : Stack :=
  { s with versions := s.versions.push { s.version v with depths := none } }

/-- Puts the version `source` in the place of the earlier version `target`. -/
def renumber (s : Stack) (source target : Nat) : Stack :=
  if source == target then s
  else
    let old := s.version target
    let new := s.version source
    let new := { new with depths := new.depths <|> old.depths }
    { s with versions := (s.versions.set! target new).eraseIdxIfInBounds source }

/-- Swaps two versions. -/
def swap (s : Stack) (a b : Nat) : Stack :=
  let x := s.version a
  let y := s.version b
  { s with versions := (s.versions.set! a y).set! b x }

/-! ## Pushing -/

/-- Puts a subtree and a state on top of a version. Without a subtree, the node marks where an
error was met. -/
def push (s : Stack) (v : Nat) (tree : Option Subtree) (state : Nat) : Stack :=
  let below := (s.version v).node
  let b := s.nodeAt below
  let node : StackNode := match tree with
    | none => { b with state, links := #[⟨below, none⟩] }
    | some t =>
      { state, links := #[⟨below, tree⟩]
        position := t.info.stop
        errorCost := b.errorCost + t.cost
        nodeCount := b.nodeCount + t.nodeCount
        rank := b.rank + t.info.rank }
  let number := s.nodes.size
  let s := { s with nodes := s.nodes.push node }
  s.modifyVersion v fun h =>
    { h with node := number, nodesAtError := if tree.isNone then node.nodeCount else h.nodesAtError }

/-! ## Merging -/

/-- Whether two links carry subtrees that make no difference to the parser. -/
def linksEquivalent (a b : Link) : Bool :=
  match a.tree, b.tree with
  | none, none => true
  | some t, some u => t.equivalent u
  | _, _ => false

/-- The rank of the way down over a link. -/
def linkRank (s : Stack) (l : Link) : Int :=
  (s.nodeAt l.node).rank + (match l.tree with | some t => t.info.rank | none => 0)

/-- Adds a link to a node. A link beside an equivalent one to the same node only replaces it
when its rank is higher; a link beside an equivalent one to a node in the same situation has
its links added there. The fuel bounds the depth. -/
def addLink : Nat → Stack → Nat → Link → Stack
  | 0, s, _, _ => s
  | fuel + 1, s, target, link =>
    if link.node == target then s
    else
      let node := s.nodeAt target
      let same (l : Link) : Bool :=
        linksEquivalent l link && (l.node == link.node ||
          (let a := s.nodeAt l.node
           let b := s.nodeAt link.node
           a.state == b.state && a.position.byte == b.position.byte &&
             a.errorCost == b.errorCost))
      match node.links.findIdx? same with
      | some i =>
        let old := node.links.getD i default
        if old.node == link.node then
          let rankOf (l : Link) : Int := match l.tree with | some t => t.info.rank | none => 0
          if rankOf link > rankOf old then
            let rank := linkRank s link
            { s with nodes := s.nodes.modify target fun n =>
                { n with links := n.links.modify i (fun l => { l with tree := link.tree }), rank } }
          else s
        else
          let s := (s.nodeAt link.node).links.foldl
            (fun s l => addLink fuel s old.node l) s
          let rank := linkRank s link
          { s with nodes := s.nodes.modify target fun n => { n with rank := max n.rank rank } }
      | none =>
        if node.links.size ≥ maxLinks then s
        else
          let rank := linkRank s link
          let count := (s.nodeAt link.node).nodeCount +
            (match link.tree with | some t => t.nodeCount | none => 0)
          { s with nodes := s.nodes.modify target fun n =>
              { n with links := n.links.push link, rank := max n.rank rank,
                       nodeCount := max n.nodeCount count } }

/-- Whether two versions are in the same situation. -/
def canMerge (s : Stack) (a b : Nat) : Bool :=
  let v := s.version a
  let w := s.version b
  let m := s.nodeAt v.node
  let n := s.nodeAt w.node
  v.isActive && w.isActive && m.state == n.state && m.position.byte == n.position.byte &&
    m.errorCost == n.errorCost && v.layout == w.layout

/-- Merges the second version into the first, when they are in the same situation. -/
def merge (s : Stack) (a b : Nat) : Stack × Bool :=
  if s.canMerge a b then
    let target := (s.version a).node
    let fuel := s.nodes.size + 1
    let s := (s.top b).links.foldl (fun s l => addLink fuel s target l) s
    let node := s.nodeAt target
    let s := if node.state == Automaton.errorState then
        s.modifyVersion a fun h => { h with nodesAtError := node.nodeCount }
      else s
    (s.removeVersion b, true)
  else (s, false)

/-- Merges version `b` into the first version from `first` up to (not including) `last` that
is in the same situation and is not `skip`. -/
def mergeIntoAny (s : Stack) (b : Nat) (first last : Nat) (skip : Option Nat) : Stack × Bool :=
  match (List.range' first (last - first)).find? fun j => skip != some j && s.canMerge j b with
  | some j => s.merge j b
  | none => (s, false)

/-! ## Going down -/

/-- A way down from the top: the node reached, the subtrees passed (the lowest first), and how
many of them are not extra. -/
structure Way where
  node : Nat
  trees : List Subtree := []
  passed : Nat := 0
deriving Inhabited

/-- What to do at a node on a way down. -/
structure Verdict where
  /-- Take the subtrees passed. -/
  take : Bool
  /-- Go no further. -/
  stop : Bool

/-- The ways that go on from a way over the links of its node: over the first link and over
the others. -/
def Way.over (w : Way) (l : Link) : Way :=
  match l.tree with
  | some t =>
    { node := l.node, trees := t :: w.trees,
      passed := if t.info.extra then w.passed else w.passed + 1 }
  | none => { w with node := l.node, passed := w.passed + 1 }

/-- The state of a search downwards: ways that go on, ways to go on with in the next round, what
the search remembers, and the ways taken. -/
structure Search (σ : Type) where
  kept : Array Way := #[]
  added : Array Way := #[]
  memory : σ
  taken : Array Way := #[]

/-- One round: every way is judged and goes on over the links of its node. -/
def searchRound {σ : Type} (s : Stack) (judge : σ → Way → σ × Verdict) (ways : Array Way)
    (search : Search σ) : Search σ :=
  let size := ways.size
  (ways.foldl (fun (acc : Search σ × Nat) w =>
    let (r, waiting) := acc
    let node := s.nodeAt w.node
    let (memory, verdict) := judge r.memory w
    let r := { r with memory, taken := if verdict.take then r.taken.push w else r.taken }
    match node.links[0]? with
    | none => (r, waiting - 1)
    | some first =>
      if verdict.stop then (r, waiting - 1)
      else
        let r := (node.links.extract 1 node.links.size).foldl (fun r l =>
          if r.kept.size + waiting + r.added.size ≥ maxWays then r
          else { r with added := r.added.push (w.over l) }) r
        ({ r with kept := r.kept.push (w.over first) }, waiting - 1)) (search, size)).1

/-- Follows all ways down, round by round; the fuel bounds the depth. -/
def searchDown {σ : Type} (s : Stack) (judge : σ → Way → σ × Verdict) :
    Nat → Array Way → Search σ → Search σ
  | 0, _, search => search
  | fuel + 1, ways, search =>
    if ways.isEmpty then search
    else
      let next := searchRound s judge ways { search with kept := #[], added := #[] }
      searchDown s judge fuel (next.kept ++ next.added) next

/-- Follows all ways down from the top of a version. -/
def explore {σ : Type} (s : Stack) (v : Nat) (memory : σ) (judge : σ → Way → σ × Verdict) :
    Search σ :=
  searchDown s judge (s.nodes.size + 1) #[{ node := (s.version v).node }] { memory }

/-- The subtrees popped from a version, and the new version without them. -/
structure Slice where
  trees : List Subtree
  version : Nat
deriving Inhabited

/-- Makes a new version for each node that a taken way leads to; ways to one node share it and
stand next to each other. -/
def sliceWays (s : Stack) (popped : Nat) (taken : Array Way) : Array Slice × Stack :=
  taken.foldl (fun (acc : Array Slice × Stack) w =>
    let (slices, s) := acc
    let isSame (sl : Slice) : Bool := (s.version sl.version).node == w.node
    match slices.toList.reverse.findIdx? isSame with
    | some back =>
      let i := slices.size - 1 - back
      let version := (slices.getD i default).version
      (slices.insertIdxIfInBounds (i + 1) ⟨w.trees, version⟩, s)
    | none =>
      let o := s.version popped
      let new : Version := { node := w.node, nodesAtError := o.nodesAtError, layout := o.layout }
      (slices.push ⟨w.trees, s.versions.size⟩, { s with versions := s.versions.push new }))
    (#[], s)

/-- Pops a number of subtrees, extra ones not counted, along every way down. -/
def popCount (s : Stack) (v count : Nat) : Array Slice × Stack :=
  let search := s.explore v () fun _ w =>
    ((), if w.passed == count then ⟨true, true⟩ else ⟨false, false⟩)
  s.sliceWays v search.taken

/-- Pops everything along every way down. -/
def popAll (s : Stack) (v : Nat) : Array Slice × Stack :=
  let search := s.explore v () fun _ w =>
    ((), if (s.nodeAt w.node).links.isEmpty then ⟨true, false⟩ else ⟨false, false⟩)
  s.sliceWays v search.taken

/-- Pops the error node on top of a version, when there is one. -/
def popError (s : Stack) (v : Nat) : Option Subtree × Stack :=
  let hasError := (s.top v).links.any fun l => match l.tree with
    | some t => t.isError
    | none => false
  if hasError then
    let search := s.explore v false fun found w =>
      match w.trees with
      | [] => (found, ⟨false, false⟩)
      | t :: _ => if !found && t.isError then (true, ⟨true, true⟩) else (found, ⟨false, true⟩)
    let (slices, s) := s.sliceWays v search.taken
    match slices[0]? with
    | some sl => (sl.trees.head?, s.renumber sl.version v)
    | none => (none, s)
  else (none, s)

/-- How deep the search for earlier states goes. -/
def maxDepth : Nat := 16

/-- Remembers the states below the top of a version, each with its least depth. -/
def recordDepths (s : Stack) (v : Nat) : Stack :=
  let search := s.explore v (#[] : Array Depth) fun found w =>
    let node := s.nodeAt w.node
    if w.passed > maxDepth then (found, ⟨false, true⟩)
    else if found.any fun d => d.depth == w.passed && d.state == node.state then
      (found, ⟨false, false⟩)
    else (found.push ⟨node.position, w.passed, node.state⟩, ⟨false, false⟩)
  s.modifyVersion v fun h => { h with depths := some search.memory }

/-! ## Totals -/

/-- The cost of the errors of a version, an error under way included. -/
def errorCost (s : Stack) (v : Nat) : Nat :=
  let h := s.version v
  let n := s.nodeAt h.node
  let open_ := n.state == Automaton.errorState && (match n.links[0]? with
    | some l => l.tree.isNone
    | none => true)
  n.errorCost + (if h.isPaused || open_ then Cost.recovery else 0)

/-- Forgets nodes that were there at the last error and have been popped since. -/
def clampNodes (s : Stack) (v : Nat) : Stack :=
  let count := (s.top v).nodeCount
  if (s.version v).nodesAtError ≤ count then s
  else s.modifyVersion v fun h => { h with nodesAtError := count }

/-- The number of nodes since the last error. -/
def nodesSinceError (s : Stack) (v : Nat) : Nat :=
  (s.top v).nodeCount - (s.version v).nodesAtError

/-- Whether something has been read since the last error. -/
def advancedFrom (s : Stack) (atError : Nat) : Nat → Nat → Bool
  | 0, _ => false
  | fuel + 1, n =>
    let node := s.nodeAt n
    match node.links[0]? with
    | none => false
    | some l =>
      match l.tree with
      | none => false
      | some t =>
        if t.totalBytes > 0 then true
        else if node.nodeCount > atError && t.cost == 0 then advancedFrom s atError fuel l.node
        else false

/-- Whether a version has read something since the last error, or met none. -/
def hasAdvanced (s : Stack) (v : Nat) : Bool :=
  (s.top v).errorCost == 0 ||
    s.advancedFrom (s.version v).nodesAtError (s.nodes.size + 1) (s.version v).node

end Stack

end CodeCatalog.Parsing
