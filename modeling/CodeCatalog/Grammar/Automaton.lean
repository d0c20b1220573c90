import Std.Data.HashMap
import CodeCatalog.Grammar.Plain

/-!
# The parser automaton of a grammar

The canonical automaton with one token of lookahead. A state is a set of items (a production
and how much of it has been read), each with the tokens that may follow it; two items that
will be reduced alike and have the same symbols to come count as one, whatever symbols came
before. Conflicts between actions are settled by precedence and associativity; where these do
not decide, all actions stay and the parser follows them side by side.

Sets of tokens are natural numbers read as bit sets.

## Main definitions

* `CodeCatalog.Grammar.Action` — what a parser may do in a state on a token.
* `CodeCatalog.Grammar.Automaton` — the action and successor tables.
* `CodeCatalog.Grammar.Automaton.build` — the automaton of a plain grammar.
-/

namespace CodeCatalog.Grammar

/-! ## Actions -/

/-- What a parser may do in a state on a token. -/
inductive Action where
  /-- Reads the token and goes to a state. A shift marked as a repetition belongs to the
  ambiguity between two groupings of one repetition and is never taken. -/
  | shift (state : Nat) (repetition : Bool)
  /-- Reads a token that may stand anywhere and stays in the state. -/
  | shiftExtra
  /-- Replaces the last `count` symbols by `symbol`; `shape` numbers the aliases and fields of
  the children. -/
  | reduce (symbol count : Nat) (rank : Int) (shape : Nat)
  /-- Ends the parse. -/
  | accept
  /-- Skips the token while looking for a state to go on from. -/
  | recover
deriving Repr, BEq, DecidableEq, Inhabited

/-- What a production says about one child: its alias, its field, and whether it is a hidden
node whose own fields show in the parent. -/
structure ChildShape where
  renamed : Option Alias
  field : Option String
  inherits : Bool
deriving Repr, BEq, DecidableEq, Hashable, Inhabited

/-- The table rows of one state. -/
structure StateRow where
  /-- The actions on each terminal. -/
  actions : Array (Array Action)
  /-- The state after each nonterminal, `0` where there is none. -/
  gotos : Array Nat
deriving Inhabited

/-- The automaton of a grammar. State `0` is where a parser looks for a way to go on after an
error; state `1` is the first state. -/
structure Automaton where
  rows : Array StateRow
  shapes : Array (Array ChildShape)
deriving Inhabited

namespace Automaton

/-- The state in which a parser looks for a way to go on after an error. -/
def errorState : Nat := 0

/-- The first state. -/
def startState : Nat := 1

/-- The actions in a state on a terminal. -/
def actions (a : Automaton) (state terminal : Nat) : Array Action :=
  match a.rows[state]? with
  | some row => row.actions.getD terminal #[]
  | none => #[]

/-! ## First symbols -/

/-- The terminals that a symbol can begin with, by symbol, for productions none of whose
symbols is empty: one more round of the equations. -/
def firstRound (g : PlainGrammar) (first : Array Nat) : Array Nat :=
  g.productions.foldl (fun first p =>
    match p.steps[0]? with
    | none => first
    | some s =>
      let head := p.head + g.terminalCount
      first.modify head (· ||| first.getD s.symbol 0)) first

/-- Repeats the rounds until nothing changes. -/
def firstLoop (g : PlainGrammar) : Nat → Array Nat → Array Nat
  | 0, first => first
  | fuel + 1, first =>
    let next := firstRound g first
    if next == first then first else firstLoop g fuel next

/-- The terminals that each symbol can begin with. -/
def firstSets (g : PlainGrammar) : Array Nat :=
  let start := (Array.range g.symbolCount).map fun i =>
    if i < g.terminalCount then 1 <<< i else 0
  firstLoop g g.symbolCount start

/-! ## Closures -/

/-- What expanding a nonterminal adds to a state: the nonterminal whose productions are added,
the tokens that follow it in any case, and whether what follows the expanded nonterminal
follows it too. -/
structure Addition where
  head : Nat
  follow : Nat
  inherits : Bool
deriving Inhabited, BEq

/-- One round of expansion of the nonterminals found so far. -/
def additionRound (g : PlainGrammar) (first : Array Nat) (byHead : Array (Array Production))
    (found : Array (Option Addition)) : Array (Option Addition) :=
  found.foldl (fun acc entry =>
    match entry with
    | none => acc
    | some e =>
      (byHead.getD e.head #[]).foldl (fun acc p =>
        match p.steps[0]? with
        | none => acc
        | some s =>
          if s.symbol < g.terminalCount then acc
          else
            let head := s.symbol - g.terminalCount
            let (follow, inherits) := match p.steps[1]? with
              | some next => (first.getD next.symbol 0, false)
              | none => (e.follow, e.inherits)
            acc.modify head fun old => match old with
              | none => some ⟨head, follow, inherits⟩
              | some o => some ⟨head, o.follow ||| follow, o.inherits || inherits⟩) acc) found

/-- Repeats the rounds until nothing changes. -/
def additionLoop (g : PlainGrammar) (first : Array Nat) (byHead : Array (Array Production)) :
    Nat → Array (Option Addition) → Array (Option Addition)
  | 0, found => found
  | fuel + 1, found =>
    let next := additionRound g first byHead found
    if next == found then found else additionLoop g first byHead fuel next

/-- What expanding each nonterminal adds. -/
def additions (g : PlainGrammar) (first : Array Nat) : Array (Array Addition) :=
  let count := g.nonterminals.size
  let byHead := g.productions.foldl (fun acc p => acc.modify p.head (·.push p))
    (Array.replicate count #[])
  (Array.range count).map fun head =>
    let start := (Array.replicate count none).set! head (some ⟨head, 0, true⟩)
    (additionLoop g first byHead (count * count) start).filterMap id

/-! ## Items -/

/-- What tells items apart: items with equal keys are reduced alike and go on alike. -/
structure ItemKey where
  position : Nat
  head : Nat
  rank : Int
  length : Nat
  level : Option Int
  assoc : Option Assoc
  before : List (Option Alias × Option String × Nat)
  after : List Step
deriving BEq, Hashable

/-- An item: a production and the number of its symbols already read. -/
structure Item where
  production : Production
  position : Nat
  /-- The number of the item with one more symbol read. -/
  next : Nat
deriving Inhabited

/-- The next symbol to read. -/
def Item.symbol (i : Item) : Option Nat := (i.production.steps[i.position]?).map (·.symbol)

/-- The precedence of the symbol read last. -/
def Item.level (i : Item) : Option Int :=
  if i.position = 0 then none else (i.production.steps[i.position - 1]?).bind (·.level)

/-- The associativity of the symbol read last. -/
def Item.assoc (i : Item) : Option Assoc :=
  if i.position = 0 then none else (i.production.steps[i.position - 1]?).bind (·.assoc)

/-- Which nonterminals are hidden and show fields in their parents: one more round. -/
def fieldRound (g : PlainGrammar) (has : Array Bool) : Array Bool :=
  g.productions.foldl (fun has p =>
    if p.steps.any (fun s => s.field.isSome || (s.symbol ≥ g.terminalCount &&
      has.getD (s.symbol - g.terminalCount) false)) then
      match g.nonterminals[p.head]? with
      | some v => if v.hidden then has.modify p.head (fun _ => true) else has
      | none => has
    else has) has

/-- Repeats the rounds until nothing changes. -/
def fieldLoop (g : PlainGrammar) : Nat → Array Bool → Array Bool
  | 0, has => has
  | fuel + 1, has =>
    let next := fieldRound g has
    if next == has then has else fieldLoop g fuel next

/-- Which nonterminals are hidden and show fields in their parents. -/
def hiddenWithFields (g : PlainGrammar) : Array Bool :=
  fieldLoop g g.nonterminals.size (Array.replicate g.nonterminals.size false)

/-- The key of an item. The symbols already read count only when one of them is a hidden node
with fields. -/
def itemKey (g : PlainGrammar) (withFields : Array Bool) (p : Production) (position : Nat) :
    ItemKey :=
  let read := (p.steps.extract 0 position).toList
  let inherits := read.any fun s =>
    s.symbol ≥ g.terminalCount && withFields.getD (s.symbol - g.terminalCount) false
  let last : Option Step := if position = 0 then none else p.steps[position - 1]?
  { position, head := p.head, rank := p.rank, length := p.steps.size,
    level := last.bind (·.level), assoc := last.bind (·.assoc),
    before := read.map fun s => (s.renamed, s.field, if inherits then s.symbol else 0),
    after := (p.steps.extract position p.steps.size).toList }

/-- All items of a grammar. -/
structure ItemTable where
  items : Array Item
  /-- The number of the first item of each production. -/
  entry : Array Nat
deriving Inhabited

/-- The order of items within a state. -/
def itemBefore (a b : Nat × Production) : Bool :=
  let key (e : Nat × Production) : List Int :=
    [(e.1 : Int), (e.2.head : Int), e.2.rank, (e.2.steps.size : Int),
      if e.1 = 0 then 0 else ((e.2.steps[e.1 - 1]?).bind (·.level)).getD 0]
  lexicographic (key a) (key b)
where
  /-- Whether a list comes before another one, or is the same, by the first place in which they
  differ. -/
  lexicographic : List Int → List Int → Bool
    | x :: xs, y :: ys => if x < y then true else if y < x then false else lexicographic xs ys
    | [], _ => true
    | _ :: _, [] => false

/-- Numbers the items of the productions, in the order in which a state lists them. -/
def itemTable (g : PlainGrammar) (withFields : Array Bool) (productions : Array Production) :
    ItemTable :=
  let pairs : List (Nat × Production) := productions.toList.flatMap fun p =>
    (List.range (p.steps.size + 1)).map fun i => (i, p)
  let sorted := pairs.mergeSort itemBefore
  let (index, chosen) := sorted.foldl
    (fun (acc : Std.HashMap ItemKey Nat × Array (Nat × Production)) e =>
      let key := itemKey g withFields e.2 e.1
      if acc.1.contains key then acc
      else (acc.1.insert key acc.2.size, acc.2.push e)) ({}, #[])
  let numberOf (p : Production) (i : Nat) : Nat := (index[itemKey g withFields p i]?).getD 0
  { items := chosen.map fun e => ⟨e.2, e.1, numberOf e.2 (e.1 + 1)⟩
    entry := productions.map fun p => numberOf p 0 }

/-! ## States -/

/-- An item of a state with the tokens that may follow it. -/
structure StateItem where
  item : Nat
  follow : Nat
deriving BEq, Inhabited

instance : Hashable StateItem where
  hash s := mixHash (hash s.item) (mixHash s.follow.toUInt64 (s.follow >>> 64).toUInt64)

/-- Adds an item to a list of items in increasing order, joining the followers of equal ones. -/
def insertItem (xs : Array StateItem) (x : StateItem) : Array StateItem :=
  match xs.back? with
  | none => xs.push x
  | some last =>
    if last.item < x.item then xs.push x
    else
      match xs.findIdx? (fun y => x.item ≤ y.item) with
      | none => xs.push x
      | some i =>
        if (xs.getD i default).item == x.item then
          xs.modify i fun y => { y with follow := y.follow ||| x.follow }
        else xs.insertIdxIfInBounds i x

/-- What the construction of the states needs to know about the grammar. -/
structure Context where
  grammar : PlainGrammar
  first : Array Nat
  additions : Array (Array Addition)
  table : ItemTable
  withFields : Array Bool
  /-- For each nonterminal, the first symbol of its productions and the item after it. -/
  openings : Array (Array (Nat × Nat))
  /-- Nonterminals with an empty production, and the item of that production. -/
  empties : Array (Nat × Nat)
deriving Inhabited

/-- The tokens that may follow each nonterminal whose productions a state contains. -/
def closure (c : Context) (kernel : Array StateItem) : Array (Option Nat) :=
  kernel.foldl (fun acc si =>
    match c.table.items[si.item]? with
    | none => acc
    | some item =>
      match item.symbol with
      | none => acc
      | some symbol =>
        if symbol < c.grammar.terminalCount then acc
        else
          let follow := match item.production.steps[item.position + 1]? with
            | some next => c.first.getD next.symbol 0
            | none => si.follow
          (c.additions.getD (symbol - c.grammar.terminalCount) #[]).foldl (fun acc e =>
            let extra := if e.inherits then e.follow ||| follow else e.follow
            acc.modify e.head fun old => match old with
              | none => some extra
              | some o => some (o ||| extra)) acc)
    (Array.replicate c.grammar.nonterminals.size none)

/-- The items after each symbol that can be read in a state, by symbol. -/
def successors (c : Context) (kernel : Array StateItem) (follows : Array (Option Nat)) :
    Array (Array StateItem) := Id.run do
  let mut out : Array (Array StateItem) := Array.replicate c.grammar.symbolCount #[]
  for head in [0:follows.size] do
    match follows.getD head none with
    | none => pure ()
    | some follow =>
      for (symbol, next) in c.openings.getD head #[] do
        out := out.modify symbol (insertItem · ⟨next, follow⟩)
  for si in kernel do
    match c.table.items[si.item]? with
    | none => pure ()
    | some item =>
      match item.symbol with
      | none => pure ()
      | some symbol => out := out.modify symbol (insertItem · ⟨item.next, si.follow⟩)
  return out

/-! ## Conflicts -/

/-- Compares precedences; the absent one counts as zero. -/
def compareLevels (a b : Option Int) : Ordering := compare (a.getD 0) (b.getD 0)

/-- What is known about the reductions on one token. -/
structure Reductions where
  actions : Array Action := #[]
  level : Option Int := none
  left : Bool := false
  right : Bool := false
  neither : Bool := false
deriving Inhabited

/-- Adds a reduction; a higher precedence drives out the others, a lower one is dropped. -/
def Reductions.add (r : Reductions) (action : Action) (level : Option Int)
    (assoc : Option Assoc) : Reductions :=
  let mark (r : Reductions) : Reductions := match assoc with
    | some .left => { r with left := true }
    | some .right => { r with right := true }
    | none => { r with neither := true }
  if r.actions.isEmpty then mark { r with actions := #[action], level }
  else
    match compareLevels level r.level with
    | .gt => mark { actions := #[action], level }
    | .eq => mark { r with actions := r.actions.push action, level }
    | .lt => r

/-- The items of a state that take part in a conflict on `token`: those that can read it after
having read something, and the finished ones that it may follow. -/
def conflicting (c : Context) (kernel : Array StateItem) (token : Nat) : Array Item :=
  kernel.filterMap fun si =>
    match c.table.items[si.item]? with
    | none => none
    | some item =>
      match item.symbol with
      | some symbol =>
        if item.position > 0 && (c.first.getD symbol 0).testBit token then some item else none
      | none => if si.follow.testBit token then some item else none

/-- Whether a conflict is between two groupings of one repetition. -/
def isRepetition (c : Context) (items : Array Item) : Bool :=
  match items[0]? with
  | none => false
  | some item =>
    match c.grammar.nonterminals[item.production.head]? with
    | none => false
    | some v => v.auxiliary && items.all (·.production.head == item.production.head)

/-- Settles a conflict on `token` between reductions and a shift, as far as precedence and
associativity decide it. -/
def settle (c : Context) (kernel : Array StateItem) (token : Nat) (r : Reductions)
    (target : Nat) : Array Action :=
  let items := conflicting c kernel token
  let known := items.filter (·.production.head < c.grammar.nonterminals.size)
  if isRepetition c known then r.actions.push (.shift target true)
  else
    let orders := (items.filter (·.symbol.isSome)).map fun i => compareLevels i.level r.level
    match orders.contains .gt, orders.contains .lt with
    | true, false => #[.shift target false]
    | false, true => r.actions
    | true, true => r.actions.push (.shift target false)
    | false, false =>
      match r.left, r.neither, r.right with
      | true, false, false => r.actions
      | false, false, true => #[.shift target false]
      | _, _, _ => r.actions.push (.shift target false)

/-! ## Construction -/

/-- The states found so far. -/
structure States where
  kernels : Array (Array StateItem)
  index : Std.HashMap (Array StateItem) Nat
  rows : Array StateRow
  shapes : Array (Array ChildShape)
  shapeIndex : Std.HashMap (Array ChildShape) Nat
deriving Inhabited

/-- The number of the state with this kernel, made when it is new. -/
def States.number (s : States) (kernel : Array StateItem) : Nat × States :=
  match s.index[kernel]? with
  | some n => (n, s)
  | none =>
    let n := s.kernels.size
    (n, { s with kernels := s.kernels.push kernel, index := s.index.insert kernel n })

/-- What a production says about its children, without the children at the end about which it
says nothing. -/
def shapeOf (c : Context) (p : Production) : Array ChildShape :=
  let all := p.steps.map fun s => (⟨s.renamed, s.field, s.symbol ≥ c.grammar.terminalCount &&
    c.withFields.getD (s.symbol - c.grammar.terminalCount) false⟩ : ChildShape)
  all.popWhile fun ch => ch.renamed.isNone && ch.field.isNone && !ch.inherits

/-- The number of a shape, given when it is new. -/
def States.shapeNumber (s : States) (shape : Array ChildShape) : Nat × States :=
  match s.shapeIndex[shape]? with
  | some n => (n, s)
  | none =>
    let n := s.shapes.size
    (n, { s with shapes := s.shapes.push shape, shapeIndex := s.shapeIndex.insert shape n })

/-- Adds the reductions of a finished item. -/
def addReduction (c : Context) (item : Item) (follow : Nat)
    (acc : Array Reductions × States) : Array Reductions × States :=
  let (reductions, states) := acc
  let p := item.production
  let (action, states) :=
    if p.head ≥ c.grammar.nonterminals.size then (Action.accept, states)
    else
      let (shape, states) := states.shapeNumber (shapeOf c p)
      (.reduce (p.head + c.grammar.terminalCount) p.steps.size p.rank shape, states)
  let reductions := (List.range c.grammar.terminalCount).foldl (fun rs t =>
    if follow.testBit t then rs.modify t (·.add action item.level item.assoc) else rs) reductions
  (reductions, states)

/-- The table row of a state. -/
def expand (c : Context) (kernel : Array StateItem) (states : States) : StateRow × States :=
    Id.run do
  let mut states := states
  let follows := closure c kernel
  let next := successors c kernel follows
  let mut reductions : Array Reductions := Array.replicate c.grammar.terminalCount {}
  for si in kernel do
    match c.table.items[si.item]? with
    | none => pure ()
    | some item =>
      if item.symbol.isNone then
        (reductions, states) := addReduction c item si.follow (reductions, states)
  for (head, number) in c.empties do
    match follows.getD head none, c.table.items[number]? with
    | some follow, some item =>
      (reductions, states) := addReduction c item follow (reductions, states)
    | _, _ => pure ()
  let mut actions : Array (Array Action) := #[]
  for token in [0:c.grammar.terminalCount] do
    let r := reductions.getD token {}
    let target := next.getD token #[]
    if target.isEmpty then
      if r.actions.isEmpty && c.grammar.extras.contains token then
        actions := actions.push #[.shiftExtra]
      else actions := actions.push r.actions
    else
      let (n, more) := states.number target
      states := more
      if r.actions.isEmpty then actions := actions.push #[.shift n false]
      else actions := actions.push (settle c kernel token r n)
  let mut gotos : Array Nat := #[]
  for head in [0:c.grammar.nonterminals.size] do
    let target := next.getD (c.grammar.terminalCount + head) #[]
    if target.isEmpty then gotos := gotos.push 0
    else
      let (n, more) := states.number target
      states := more
      gotos := gotos.push n
  return (⟨actions, gotos⟩, states)

/-- Expands the states in order until none is left; the fuel bounds their number. -/
def expandAll (c : Context) : Nat → States → States
  | 0, s => s
  | fuel + 1, s =>
    match s.kernels[s.rows.size]? with
    | none => s
    | some kernel =>
      let (row, s) := expand c kernel s
      expandAll c fuel { s with rows := s.rows.push row }

/-- What the construction needs to know about a grammar. -/
def context (g : PlainGrammar) : Context :=
  let first := firstSets g
  let withFields := hiddenWithFields g
  let augmented : Production :=
    { head := g.nonterminals.size, steps := #[{ symbol := g.terminalCount + g.start }] }
  let productions := g.productions.push augmented
  let table := itemTable g withFields productions
  let numbered := productions.zip table.entry
  let openings := numbered.foldl (fun acc (p, n) =>
    match p.steps[0]?, table.items[n]? with
    | some s, some item => acc.modify p.head (fun o => pushNew o (s.symbol, item.next))
    | _, _ => acc) (Array.replicate g.nonterminals.size #[])
  let empties := (numbered.filter fun (p, _) => p.steps.isEmpty).map fun (p, n) => (p.head, n)
  { grammar := g, first, additions := additions g first, table, withFields, openings, empties }

/-- A bound on the number of states that is never reached in practice. -/
def stateLimit : Nat := 1000000

/-- All states of the automaton, before hidden single-child reductions are bypassed. -/
def allStates (g : PlainGrammar) : States :=
  let c := context g
  let kernel : Array StateItem := #[⟨(c.table.entry.back?).getD 0, 1⟩]
  expandAll c stateLimit
    { kernels := #[#[], kernel]
      index := ({} : Std.HashMap (Array StateItem) Nat).insert kernel 1
      rows := #[⟨Array.replicate g.terminalCount #[], Array.replicate g.nonterminals.size 0⟩]
      shapes := #[#[]]
      shapeIndex := ({} : Std.HashMap (Array ChildShape) Nat).insert #[] 0 }

/-! ## Bypassing hidden reductions -/

/-- The hidden symbol to which a state does nothing but reduce a single child that keeps its
name and has no field. Nothing is lost when such a state is passed over. -/
def bypass? (g : PlainGrammar) (aliased : List Nat) (row : StateRow) : Option Nat :=
  let all : Array Action := row.actions.flatten.filter (· != .shiftExtra)
  match all[0]? with
  | some (Action.reduce symbol 1 0 0) =>
    match g.nonterminals[symbol - g.terminalCount]? with
    | some v =>
      if v.hidden && !v.supertype && !v.shown.visible && !aliased.contains symbol &&
          all.all (· == Action.reduce symbol 1 0 0) then some symbol
      else none
    | none => none
  | _ => none

/-- The state to go to instead of `target`, coming from a state with the gotos `gotos`. -/
def redirect (first : Nat) (bypassed : Array (Option Nat)) (gotos : Array Nat) :
    Nat → Nat → Nat
  | 0, target => target
  | fuel + 1, target =>
    match bypassed.getD target none with
    | none => target
    | some symbol =>
      match gotos.getD (symbol - first) 0 with
      | 0 => target
      | next => redirect first bypassed gotos fuel next

/-- Passes over the states that only reduce a hidden symbol with a single child. -/
def bypassHidden (g : PlainGrammar) (rows : Array StateRow) : Array StateRow :=
  let aliased := (g.productions.foldl (fun acc p =>
    p.steps.foldl (fun acc s => if s.renamed.isSome then s.symbol :: acc else acc) acc) []).eraseDups
  let bypassed := rows.map (bypass? g aliased)
  rows.map fun row =>
    let onward := redirect g.terminalCount bypassed row.gotos 16
    { actions := row.actions.map fun as => as.map fun a => match a with
        | .shift target repetition => .shift (onward target) repetition
        | a => a
      gotos := row.gotos.map onward }

/-- The automaton of a grammar. -/
def build (g : PlainGrammar) : Automaton :=
  let s := allStates g
  { rows := bypassHidden g s.rows, shapes := s.shapes }

end Automaton

end CodeCatalog.Grammar
