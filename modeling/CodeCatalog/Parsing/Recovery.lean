import CodeCatalog.Parsing.Language
import CodeCatalog.Parsing.Stack

/-!
# Reductions, acceptance and recovery from errors

The steps that a parser performs on its stack. When no version of the stack can use the next
token, the parser tries to go on as if a token were missing, to go back to an earlier state in
which the token can be used, and to skip the token; it keeps the cheapest of these.

## Main definitions

* `CodeCatalog.Parsing.Machine` — the stack and the best finished tree.
* `CodeCatalog.Parsing.Machine.reduce`, `accept` — steps of a parse.
* `CodeCatalog.Parsing.Machine.handleError`, `recover` — recovery.
-/

namespace CodeCatalog.Parsing

open Grammar Python

/-- The state of a parse. -/
structure Machine where
  stack : Stack := Stack.initial
  finished : Option Subtree := none
  accepted : Nat := 0
deriving Inhabited

/-- How many versions of the stack are kept. -/
def maxVersions : Nat := 6

/-- How many more versions there may be for a while. -/
def maxOverflow : Nat := 4

/-! ## Standing of versions -/

/-- What versions are compared by. -/
structure Standing where
  cost : Nat
  nodes : Nat
  rank : Int
  inError : Bool

/-- The outcome of comparing two versions: keep one only, or prefer it, or neither. -/
inductive Preference where
  | takeLeft | preferLeft | none | preferRight | takeRight
deriving Repr, BEq, DecidableEq

/-- From this weighted difference in cost on, the more expensive version is given up. -/
def maxCostDifference : Nat := 18 * Cost.skippedTree

/-- Compares two versions. -/
def Standing.compare (a b : Standing) : Preference :=
  if !a.inError && b.inError then
    if a.cost < b.cost then .takeLeft else .preferLeft
  else if a.inError && !b.inError then
    if b.cost < a.cost then .takeRight else .preferRight
  else if a.cost < b.cost then
    if (b.cost - a.cost) * (1 + a.nodes) > maxCostDifference then .takeLeft else .preferLeft
  else if b.cost < a.cost then
    if (a.cost - b.cost) * (1 + b.nodes) > maxCostDifference then .takeRight else .preferRight
  else if a.rank > b.rank then .preferLeft
  else if b.rank > a.rank then .preferRight
  else .none

/-- The standing of a version. -/
def Stack.standing (s : Stack) (v : Nat) : Standing :=
  let h := s.version v
  { cost := s.errorCost v + (if h.isPaused then Cost.skippedTree else 0)
    nodes := s.nodesSinceError v
    rank := (s.top v).rank
    inError := h.isPaused || s.state v == Automaton.errorState }

namespace Machine

/-- Changes the stack. -/
def onStack (m : Machine) (f : Stack → Stack) : Machine :=
  { m with stack := f m.stack }

/-! ## Reductions -/

/-- Gathers neighbouring slices of one version. -/
def groupSlices (slices : Array Stack.Slice) : List (Nat × List (List Subtree)) :=
  slices.toList.foldr (fun sl acc =>
    match acc with
    | (v, group) :: rest =>
      if v == sl.version then (v, sl.trees :: group) :: rest
      else (sl.version, [sl.trees]) :: acc
    | [] => [(sl.version, [sl.trees])]) []

/-- The best of several ways to reduce one symbol, and the extra tokens behind it. -/
def chooseChildren (lang : Language) (symbol shape : Nat) (pos : Position) :
    List (List Subtree) → Subtree × List Subtree
  | [] => (lang.build symbol shape pos [], [])
  | first :: others =>
    let (children, extras) := Subtree.splitTrailingExtras first
    others.foldl (fun (best : Subtree × List Subtree) trees =>
      let (children, extras) := Subtree.splitTrailingExtras trees
      let other := lang.build symbol 0 pos children
      if best.1.prefersSecond other then (lang.build symbol shape pos children, extras) else best)
      (lang.build symbol shape pos children, extras)

/-- Reduces the last `count` symbols of a version along every way down. The new versions are
merged with older ones where possible; the result is the first new version that stays. -/
def reduce (lang : Language) (s : Stack) (v symbol count : Nat) (rank : Int) (shape : Nat) :
    Stack × Option Nat :=
  let initial := s.count
  let halted := (s.versions.filter (·.isHalted)).size
  let (slices, s) := s.popCount v count
  let (s, _) := (groupSlices slices).foldl (fun (acc : Stack × Nat) group =>
    let (s, removed) := acc
    let w := group.1 - removed
    if w > maxVersions + maxOverflow + halted then (s.removeVersion w, removed + 1)
    else
      let (parent, extras) := chooseChildren lang symbol shape (s.position w) group.2
      let parent := parent.mapInfo fun i => { i with rank := i.rank + rank }
      let next := lang.next (s.state w) symbol
      let s := s.push w (some parent) next
      let s := extras.foldl (fun s t => s.push w (some t) next) s
      let (s, merged) := s.mergeIntoAny w 0 w (some v)
      (s, if merged then removed + 1 else removed)) (s, 0)
  (s, if s.count > initial then some initial else none)

/-! ## Acceptance -/

/-- The tree of a finished stack: the last symbol takes in everything around it. -/
def rootOf (lang : Language) (pos : Position) (trees : List Subtree) : Option Subtree :=
  let extras := (trees.reverse.takeWhile (·.info.extra)).reverse
  match (trees.take (trees.length - extras.length)).reverse with
  | [] => none
  | last :: before =>
    some (lang.build last.info.symbol last.info.shape pos
      (before.reverse ++ last.children ++ extras))

/-- Ends a version with the end of the text, and keeps the better tree. -/
def accept (lang : Language) (m : Machine) (v : Nat) (lookahead : Subtree) : Machine :=
  let s := m.stack.push v (some lookahead) Automaton.startState
  let pos := s.position v
  let (slices, s) := s.popAll v
  let m := slices.foldl (fun (m : Machine) sl =>
    match rootOf lang pos sl.trees with
    | none => m
    | some root =>
      let better := match m.finished with
        | none => true
        | some old => old.prefersSecond root
      { m with accepted := m.accepted + 1, finished := if better then some root else m.finished })
    { m with stack := s }
  match slices[0]? with
  | some sl => m.onStack fun s => (s.removeVersion sl.version).halt v
  | none => m.onStack (·.halt v)

/-! ## Recovery -/

/-- Whether some other version, or a finished tree, is clearly better than a version at this
cost. -/
def betterExists (m : Machine) (v : Nat) (inError : Bool) (cost : Nat) : Bool :=
  (match m.finished with
    | some t => t.cost ≤ cost
    | none => false) ||
  (let s := m.stack
   let own : Standing :=
    { cost, inError, rank := (s.top v).rank, nodes := s.nodesSinceError v }
   (List.range s.count).any fun i =>
    if i == v || !(s.version i).isActive || (s.position i).byte < (s.position v).byte then false
    else
      match own.compare (s.standing i) with
      | .takeRight => true
      | .preferRight => s.canMerge i v
      | _ => false)

/-- All reductions of a state on the terminals from `first` up to `last`, each symbol and
number of children once, and whether there is a shift. -/
def reductionsOn (lang : Language) (state first last : Nat) :
    Bool × Array (Nat × Nat × Int × Nat) :=
  (List.range' first (last - first)).foldl (fun acc t =>
    (lang.actions state t).foldl (fun (acc : Bool × Array (Nat × Nat × Int × Nat)) a =>
      match a with
      | .shift _ repetition => (acc.1 || !repetition, acc.2)
      | .recover => (true, acc.2)
      | .reduce symbol count rank shape =>
        if count > 0 && !acc.2.any (fun r => r.1 == symbol && r.2.1 == count) then
          (acc.1, acc.2.push (symbol, count, rank, shape))
        else acc
      | _ => acc) acc) (false, #[])

/-- Performs all reductions that some next token would allow (or the terminal `symbol`, when
it is not `0`), starting from a version; versions that can do nothing more are replaced by
their reductions. The result tells whether some version can shift. -/
def reduceAll (lang : Language) (start symbol initial : Nat) :
    Nat → Nat → Nat → Bool → Stack → Stack × Bool
  | 0, _, _, canShift, s => (s, canShift)
  | fuel + 1, round, v, canShift, s =>
    let count := s.count
    if v ≥ count then (s, canShift)
    else
      let (s, merged) := s.mergeIntoAny v initial v none
      if merged then reduceAll lang start symbol initial fuel (round + 1) v canShift s
      else
        let state := s.state v
        let (first, last) := if symbol == 0 then (1, lang.grammar.terminalCount)
          else (symbol, symbol + 1)
        let (hasShift, reductions) := reductionsOn lang state first last
        let (s, new) := reductions.foldl (fun (acc : Stack × Option Nat) r =>
          reduce lang acc.1 v r.1 r.2.1 r.2.2.1 r.2.2.2) (s, none)
        let following := if v == start then count else v + 1
        if hasShift then reduceAll lang start symbol initial fuel (round + 1) following true s
        else
          match new with
          | some w =>
            if round < maxVersions then
              reduceAll lang start symbol initial fuel (round + 1) v canShift (s.renumber w v)
            else if symbol != 0 then
              reduceAll lang start symbol initial fuel (round + 1) following canShift
                (s.removeVersion v)
            else reduceAll lang start symbol initial fuel (round + 1) following canShift s
          | none =>
            let s := if symbol != 0 then s.removeVersion v else s
            reduceAll lang start symbol initial fuel (round + 1) following canShift s

/-- A bound on the rounds of `reduceAll` that is never reached in practice. -/
def reductionLimit : Nat := 10000

/-- Performs all reductions that some next token would allow. -/
def allReductions (lang : Language) (s : Stack) (start symbol : Nat) : Stack × Bool :=
  reduceAll lang start symbol s.count reductionLimit 0 start false s

/-- Wraps what lies above a depth in an error node, in versions that reach the wanted state. -/
def recoverTo (lang : Language) (s : Stack) (v depth goal : Nat) : Stack × Bool :=
  let (slices, s) := s.popCount v depth
  let (s, previous) := slices.foldl (fun (acc : Stack × Option Nat) sl =>
    let (s, previous) := acc
    if previous == some sl.version then (s, previous)
    else if s.state sl.version != goal then (s.halt sl.version, previous)
    else
      let (err, s) := s.popError sl.version
      let trees := (match err with
        | some t => t.children
        | none => []) ++ sl.trees
      let (trees, extras) := Subtree.splitTrailingExtras trees
      let s := if trees.isEmpty then s
        else
          let node := (lang.build errorSymbol 0 (s.position sl.version) trees).mapInfo fun i =>
            { i with extra := true }
          s.push sl.version (some node) goal
      let s := extras.foldl (fun s t => s.push sl.version (some t) goal) s
      (s, some sl.version)) (s, none)
  (s, previous.isSome)

/-- Looks for an earlier state that can use the token, and goes back there. -/
def recoverToEarlier (lang : Language) (m : Machine) (v : Nat) (lookahead : Subtree)
    (versions : Nat) : List Depth → Machine × Bool
  | [] => (m, false)
  | d :: ds =>
    let s := m.stack
    let position := s.position v
    if d.state == Automaton.errorState || d.position.byte == position.byte then
      recoverToEarlier lang m v lookahead versions ds
    else if (List.range versions).any fun j =>
        s.state j == d.state && (s.position j).byte == position.byte then
      recoverToEarlier lang m v lookahead versions ds
    else
      let cost := s.errorCost v + d.depth * Cost.skippedTree +
        (position.byte - d.position.byte) * Cost.skippedByte +
        (position.row - d.position.row) * Cost.skippedLine
      if m.betterExists v false cost then (m, false)
      else if lang.hasActions d.state lookahead.info.symbol then
        let depth := if s.nodesSinceError v > 0 then d.depth + 1 else d.depth
        let (s, done) := recoverTo lang s v depth d.state
        let m := { m with stack := s }
        if done then (m, true) else recoverToEarlier lang m v lookahead versions ds
      else recoverToEarlier lang m v lookahead versions ds

/-- Removes the versions from `first` on that have ended. -/
def removeInactive (s : Stack) (first : Nat) : Stack :=
  { s with versions := s.versions.extract 0 first ++
      (s.versions.extract first s.versions.size).filter (·.isActive) }

/-- Puts the token into the error node on top of a version and stays in the error state. -/
def skipToken (lang : Language) (s : Stack) (v : Nat) (lookahead : Subtree) (since : Nat) :
    Stack :=
  let isExtra := match (lang.actions Automaton.startState lookahead.info.symbol).back? with
    | some .shiftExtra => true
    | _ => false
  let lookahead := if isExtra then lookahead.mapInfo fun i => { i with extra := true }
    else lookahead
  let node := lang.build errorRepeatSymbol 0 lookahead.info.before [lookahead]
  let (node, s) :=
    if since > 0 then
      let (slices, s) := s.popCount v 1
      match slices[0]? with
      | none => (node, s)
      | some sl =>
        let s := { s with versions := s.versions.extract 0 (sl.version + 1) }
        let s := s.renumber sl.version v
        (lang.build errorRepeatSymbol 0 lookahead.info.before (sl.trees ++ [node]), s)
    else (node, s)
  let s := s.push v (some node) Automaton.errorState
  match lookahead.info.layout with
  | some l => s.modifyVersion v fun h => { h with layout := some l }
  | none => s

/-- Recovers from an error with the next token: goes back to an earlier state that can use it,
and also skips it. At the end of the text everything becomes one error node. -/
def recover (lang : Language) (m : Machine) (v : Nat) (lookahead : Subtree) : Machine :=
  let m := m.onStack (·.clampNodes v)
  let versions := m.stack.count
  let since := m.stack.nodesSinceError v
  let cost := m.stack.errorCost v
  let depths := ((m.stack.version v).depths.map (·.toList)).getD []
  let (m, did) := if lookahead.isError then (m, false)
    else recoverToEarlier lang m v lookahead versions depths
  let m := m.onStack (removeInactive · versions)
  if lookahead.info.symbol == 0 then
    let node := lang.build errorSymbol 0 (m.stack.position v) []
    accept lang (m.onStack (·.push v (some node) Automaton.startState)) v lookahead
  else if did && (m.stack.count > maxVersions || lookahead.info.layoutChanged) then
    m.onStack (·.halt v)
  else
    let cost := cost + Cost.skippedTree + lookahead.totalBytes * Cost.skippedByte +
      (lookahead.info.stop.row - lookahead.info.before.row) * Cost.skippedLine
    if m.betterExists v false cost then m.onStack (·.halt v)
    else m.onStack (skipToken lang · v lookahead since)

/-- Looks for a token that could be missing at the top of a version: after it, the next token
must allow a reduction and then fit. -/
def tryMissing (lang : Language) (v : Nat) (lookahead : Subtree) (position : Position) :
    List Nat → Stack → Stack × Bool
  | [], s => (s, false)
  | t :: ts, s =>
    let state := s.state v
    let after := lang.next state t
    if after == 0 || after == state || !lang.reducesFirst after lookahead.info.symbol then
      tryMissing lang v lookahead position ts s
    else
      let w := s.count
      let s := s.copyVersion v
      let s := s.push w (some (.missingToken lang.grammar t position)) after
      let (s, fits) := allReductions lang s w lookahead.info.symbol
      if fits then (s, true) else tryMissing lang v lookahead position ts s

/-- Marks the error on top of a version and of the versions from `v` up to `last`, after trying
to insert a missing token once. -/
def markErrors (lang : Language) (lookahead : Subtree) (position : Position)
    (versions : List Nat) (s : Stack) : Stack :=
  let missing := List.range' 1 (lang.grammar.terminalCount - 1)
  (versions.foldl (fun (acc : Stack × Bool) v =>
    let (s, inserted) := acc
    let (s, inserted) := if inserted then (s, true)
      else tryMissing lang v lookahead position missing s
    (s.push v none Automaton.errorState, inserted)) (s, false)).1

/-- Begins the recovery of a version whose next token cannot be used. -/
def handleError (lang : Language) (m : Machine) (v : Nat) (lookahead : Subtree) : Machine :=
  let previous := m.stack.count
  let (s, _) := allReductions lang m.stack v 0
  let count := s.count
  let position := s.position v
  let s := markErrors lang lookahead position (v :: List.range' previous (count - previous)) s
  let s := (List.range (count - previous)).foldl (fun s _ => (s.merge v previous).1) s
  let s := s.recordDepths v
  recover lang { m with stack := s } v lookahead

end Machine

end CodeCatalog.Parsing
