import CodeCatalog.Grammar.Automaton
import CodeCatalog.Python.Layout

/-!
# Trees under construction

The trees that a parser keeps on its stack, with what it needs to compare competing parses:
the cost of the errors inside, the rank among ambiguous parses, and how many nodes would show.

## Main definitions

* `CodeCatalog.Parsing.Subtree` — a token or a reduced symbol with its children.
* `CodeCatalog.Parsing.Subtree.build` — a symbol over its children.
* `CodeCatalog.Parsing.Subtree.order` — an order that settles remaining ambiguities.
-/

namespace CodeCatalog.Parsing

open Grammar Python

/-! ## Error costs -/

namespace Cost

/-- The cost of going on behind an error. -/
def recovery : Nat := 500
/-- The cost of a token that is not in the source. -/
def missing : Nat := 110
/-- The cost of a tree that is passed over. -/
def skippedTree : Nat := 100
/-- The cost of a byte that is passed over. -/
def skippedByte : Nat := 1
/-- The cost of a line that is passed over. -/
def skippedLine : Nat := 30

end Cost

/-- The symbol of a node that covers what could not be parsed. -/
def errorSymbol : Nat := 65535

/-- The symbol of the hidden node that gathers skipped tokens. -/
def errorRepeatSymbol : Nat := 65534

/-- How a symbol shows in the tree, the error symbols included. -/
def appearance (g : PlainGrammar) (symbol : Nat) : Appearance :=
  if symbol == errorSymbol then ⟨"ERROR", true, true⟩
  else if symbol == errorRepeatSymbol then ⟨"ERROR", false, true⟩
  else g.shown symbol

/-! ## Subtrees -/

/-- What a parser knows about a subtree as a whole. -/
structure Summary where
  symbol : Nat
  /-- Where the blanks in front of it begin. -/
  before : Position
  start : Position
  stop : Position
  visible : Bool
  extra : Bool := false
  /-- A token that is not in the text. -/
  missing : Bool := false
  /-- A word that is spelled like a keyword. -/
  keyword : Bool := false
  shape : Nat := 0
  rank : Int := 0
  errorCost : Nat := 0
  /-- How many children show, those of hidden children included. -/
  visibleChildren : Nat := 0
  /-- How many nodes below it show. -/
  visibleDescendants : Nat := 0
  /-- What the layout scanner remembers after this token, when it is one of its tokens. -/
  layout : Option Layout := none
  /-- Whether the scanner remembers something else than before. -/
  layoutChanged : Bool := false
deriving Repr, Inhabited

/-- A token or a reduced symbol with its children. -/
inductive Subtree where
  | node (info : Summary) (children : List Subtree)
deriving Repr, Inhabited

namespace Subtree

/-- What is known about the subtree as a whole. -/
def info : Subtree → Summary
  | .node i _ => i

/-- The children, hidden ones included. -/
def children : Subtree → List Subtree
  | .node _ cs => cs

/-- Whether it is a token. -/
def isLeaf (t : Subtree) : Bool := t.children.isEmpty

/-- Changes what is known about the whole. -/
def mapInfo (t : Subtree) (f : Summary → Summary) : Subtree :=
  match t with
  | .node i cs => .node (f i) cs

/-- The number of bytes of the subtree and the blanks in front of it. -/
def totalBytes (t : Subtree) : Nat := t.info.stop.byte - t.info.before.byte

/-- Whether it is an error node. -/
def isError (t : Subtree) : Bool := t.info.symbol == errorSymbol

/-- The cost of the errors inside. -/
def cost (t : Subtree) : Nat :=
  if t.info.missing then Cost.missing + Cost.recovery else t.info.errorCost

/-- How many nodes it adds to a tree, hidden error nodes included. -/
def nodeCount (t : Subtree) : Nat :=
  t.info.visibleDescendants + (if t.info.visible then 1 else 0) +
    (if t.info.symbol == errorRepeatSymbol then 1 else 0)

/-- A token. -/
def token (g : PlainGrammar) (symbol : Nat) (before start stop : Position) : Subtree :=
  .node { symbol, before, start, stop, visible := (appearance g symbol).visible,
          extra := symbol == 0 } []

/-- A token that is supposed to stand at a position. -/
def missingToken (g : PlainGrammar) (symbol : Nat) (pos : Position) : Subtree :=
  .node { symbol, before := pos, start := pos, stop := pos,
          visible := (appearance g symbol).visible, missing := true } []

/-- The cost that one child adds to an error node that skips it. -/
def skipCost (child : Subtree) : Nat :=
  if child.info.extra || (child.isError && child.isLeaf) then 0
  else if child.info.visible then Cost.skippedTree
  else if child.isLeaf then 0
  else Cost.skippedTree * child.info.visibleChildren

/-- Counts of the children seen so far: how many were not extra, how many nodes show as
children and how many below. -/
structure Tally where
  structural : Nat := 0
  visibleChildren : Nat := 0
  visibleDescendants : Nat := 0

/-- Counts one more child; `shape` gives the aliases of the children. -/
def Tally.add (shape : Array ChildShape) (t : Tally) (child : Subtree) : Tally :=
  let renamed := (shape[t.structural]?).bind (·.renamed)
  let i := child.info
  let structural := if i.extra then t.structural else t.structural + 1
  if (!i.extra && i.symbol != 0 && renamed.isSome) || i.visible then
    { structural, visibleChildren := t.visibleChildren + 1,
      visibleDescendants := t.visibleDescendants + i.visibleDescendants + 1 }
  else
    { structural, visibleChildren := t.visibleChildren + i.visibleChildren,
      visibleDescendants := t.visibleDescendants + i.visibleDescendants }

/-- A symbol over its children; one without children stands at `pos`. -/
def build (g : PlainGrammar) (shapes : Array (Array ChildShape)) (symbol shape : Nat)
    (pos : Position) (children : List Subtree) : Subtree :=
  let before := (children.head?.map (·.info.before)).getD pos
  let start := (children.head?.map (·.info.start)).getD pos
  let stop := (children.getLast?.map (·.info.stop)).getD pos
  let isErr := symbol == errorSymbol || symbol == errorRepeatSymbol
  let tally := children.foldl (Tally.add (shapes.getD shape #[])) {}
  let inner := children.foldl (fun n c =>
    if c.info.symbol == errorRepeatSymbol then n else n + c.cost) 0
  let own := if isErr then
      children.foldl (fun n c => n + c.skipCost) 0 + Cost.recovery +
        Cost.skippedByte * (stop.byte - start.byte) + Cost.skippedLine * (stop.row - start.row)
    else 0
  .node
    { symbol, before, start, stop, shape
      visible := (appearance g symbol).visible
      rank := children.foldl (fun n c => n + c.info.rank) 0
      errorCost := inner + own
      visibleChildren := tally.visibleChildren
      visibleDescendants := tally.visibleDescendants } children

/-- Splits off the extra tokens at the end. -/
def splitTrailingExtras (ts : List Subtree) : List Subtree × List Subtree :=
  let extras := (ts.reverse.takeWhile (·.info.extra)).reverse
  (ts.take (ts.length - extras.length), extras)

/-! ## Equivalence and order -/

/-- Whether two subtrees in the place of each other would make no difference to the parser. -/
def equivalent (a b : Subtree) : Bool :=
  a.info.symbol == b.info.symbol &&
  ((a.cost > 0 && b.cost > 0) ||
    (a.info.start.byte - a.info.before.byte == b.info.start.byte - b.info.before.byte &&
      a.info.stop.byte - a.info.start.byte == b.info.stop.byte - b.info.start.byte &&
      a.children.length == b.children.length &&
      a.info.extra == b.info.extra &&
      a.info.layout == b.info.layout))

mutual

/-- Compares by symbol, number of children, and then the children in order. -/
def order : Subtree → Subtree → Ordering
  | .node i cs, .node j ds =>
    (compare i.symbol j.symbol).then <|
      (compare cs.length ds.length).then (orderList cs ds)

/-- Compares lists of subtrees in order. -/
def orderList : List Subtree → List Subtree → Ordering
  | [], _ => .eq
  | _, [] => .eq
  | a :: as, b :: bs => (order a b).then (orderList as bs)

end

/-- Whether the second of two competing trees is to be preferred: the one with less cost of
errors, then the one of higher rank, then the one that comes first in order. -/
def prefersSecond (a b : Subtree) : Bool :=
  if b.cost != a.cost then b.cost < a.cost
  else if b.info.rank != a.info.rank then b.info.rank > a.info.rank
  else if a.cost > 0 then true
  else order a b == .gt

end Subtree

end CodeCatalog.Parsing
