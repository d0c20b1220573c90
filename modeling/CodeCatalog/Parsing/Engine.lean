import CodeCatalog.Parsing.Recovery

/-!
# Parsing

The main loop: every version of the stack reads a token in turn, then the versions are
compared, merged and thinned out, until a finished tree is better than all that go on.

## Main definitions

* `CodeCatalog.Parsing.Machine.advance` — one token for one version.
* `CodeCatalog.Parsing.Machine.condense` — comparing the versions.
* `CodeCatalog.Parsing.parseTree` — the tree of a text.
-/

namespace CodeCatalog.Parsing

open Grammar Python

namespace Machine

/-! ## One token -/

/-- The outcome of the actions on a token. -/
inductive Outcome where
  /-- The version has moved on or ended. -/
  | done (m : Machine)
  /-- Nothing but reductions: the last new version that stays, and whether there was any
  reduction. -/
  | reduced (m : Machine) (last : Option Nat) (any : Bool)

/-- Puts a token on the stack. -/
def shift (s : Stack) (v state : Nat) (lookahead : Subtree) (extra : Bool) : Stack :=
  let s := s.push v (some (lookahead.mapInfo fun i => { i with extra })) state
  match lookahead.info.layout with
  | some l => s.modifyVersion v fun h => { h with layout := some l }
  | none => s

/-- Performs the actions on a token in order. -/
def perform (lang : Language) (v : Nat) (lookahead : Subtree) :
    List Action → Machine → Option Nat → Bool → Outcome
  | [], m, last, any => .reduced m last any
  | .shift _ true :: rest, m, last, any => perform lang v lookahead rest m last any
  | .shift state false :: _, m, _, _ => .done (m.onStack (shift · v state lookahead false))
  | .shiftExtra :: _, m, _, _ =>
    .done (m.onStack fun s => shift s v (s.state v) lookahead true)
  | .reduce symbol count rank shape :: rest, m, last, _ =>
    let stack := m.stack
    let m := { m with stack := default }
    let (s, new) := reduce lang stack v symbol count rank shape
    perform lang v lookahead rest { m with stack := s } (new <|> last) true
  | .accept :: _, m, _, _ => .done (accept lang m v lookahead)
  | .recover :: _, m, _, _ => .done (recover lang m v lookahead)

/-- Lets a version use a token: reductions, then a shift. A keyword that cannot be used is
taken as a word where a word can be used; a version that cannot use the token waits. -/
def useToken (lang : Language) (v : Nat) : Nat → Subtree → Machine → Machine
  | 0, _, m => m.onStack (·.halt v)
  | fuel + 1, lookahead, m =>
    let state := m.stack.state v
    match perform lang v lookahead (lang.actions state lookahead.info.symbol).toList m none
        false with
    | .done m => m
    | .reduced m (some w) _ => useToken lang v fuel lookahead (m.onStack (·.renumber w v))
    | .reduced m none true => m.onStack (·.halt v)
    | .reduced m none false =>
      let word := lang.lexicon.word
      if lookahead.info.keyword && lookahead.info.symbol != word && lang.hasActions state word then
        let visible := (appearance lang.grammar word).visible
        useToken lang v fuel
          (lookahead.mapInfo fun i => { i with symbol := word, visible }) m
      else if state == Automaton.errorState then recover lang m v lookahead
      else m.onStack (·.pause v lookahead)

/-- A bound on the reductions on one token that is never reached in practice. -/
def actionLimit : Nat := 100000

/-- Reads a token and lets a version use it. -/
def advance (lang : Language) (text : Array Char) (v : Nat) (m : Machine) : Machine :=
  let s := m.stack
  let lookahead := lang.nextToken text (s.state v) (s.version v).layout (s.position v)
    (s.hasAdvanced v)
  useToken lang v actionLimit lookahead m

/-! ## Comparing the versions -/

/-- Compares a version of standing `own`, now version `i`, with the earlier ones from `j` on:
gives up the one that is clearly worse, merges versions in the same situation, and puts the
better one first. The result is the number of the next version to compare. -/
def compareFrom (own : Standing) : Nat → Nat → Nat → Stack → Stack × Nat
  | 0, i, _, s => (s, i + 1)
  | fuel + 1, i, j, s =>
    if j ≥ i then (s, i + 1)
    else
      let s := s.clampNodes j
      match (s.standing j).compare own with
      | .takeLeft => (s.removeVersion i, i)
      | .preferLeft | .none =>
        let (s, merged) := s.merge j i
        if merged then (s, i) else compareFrom own fuel i (j + 1) s
      | .preferRight =>
        let (s, merged) := s.merge j i
        if merged then (s, i) else compareFrom own fuel i (j + 1) (s.swap i j)
      | .takeRight => compareFrom own fuel (i - 1) j (s.removeVersion j)

/-- Compares all versions from `i` on, removing those that have ended. The result includes the
least cost of a version without an error under way. -/
def compareAll : Nat → Nat → Option Nat → Stack → Stack × Option Nat
  | 0, _, least, s => (s, least)
  | fuel + 1, i, least, s =>
    if i ≥ s.count then (s, least)
    else if (s.version i).isHalted then compareAll fuel i least (s.removeVersion i)
    else
      let s := s.clampNodes i
      let own := s.standing i
      let least := if own.inError then least
        else some (match least with
          | none => own.cost
          | some c => min c own.cost)
      let (s, next) := compareFrom own (s.count + 1) i 0 s
      compareAll fuel next least s

/-- Wakes the best waiting version when nothing better goes on, and removes the others. -/
def wake (lang : Language) : Nat → Nat → Bool → Option Nat → Machine → Machine × Option Nat
  | 0, _, _, least, m => (m, least)
  | fuel + 1, i, going, least, m =>
    if i ≥ m.stack.count then (m, least)
    else
      match (m.stack.version i).status with
      | .paused lookahead =>
        if !going && m.accepted < maxVersions then
          let least := some (m.stack.errorCost i)
          let m := m.onStack fun s => s.modifyVersion i fun h => { h with status := .active }
          let n := m.stack.count
          let m := handleError lang m i lookahead
          -- versions that the recovery adds are not looked at
          (m.onStack fun s =>
            { s with versions := (Array.range s.count).filterMap fun k =>
                let h := s.version k
                if i < k && k < n && h.isPaused then none else some h }, least)
        else wake lang fuel i going least (m.onStack (·.removeVersion i))
      | _ => wake lang fuel (i + 1) true least m

/-- Compares and thins out the versions. -/
def condense (lang : Language) (m : Machine) : Machine × Option Nat :=
  let (s, least) := compareAll (4 * m.stack.count + 4) 0 none m.stack
  let s := { s with versions := s.versions.extract 0 maxVersions }
  wake lang (s.count + 1) 0 false least { m with stack := s }

/-! ## The main loop -/

/-- Lets a version read on until it has passed the position `last`. -/
def readOn (lang : Language) (text : Array Char) (v : Nat) : Nat → Nat → Machine → Machine × Nat
  | 0, last, m => (m.onStack (·.halt v), last)
  | fuel + 1, last, m =>
    if (m.stack.version v).isActive then
      let m := advance lang text v m
      let position := (m.stack.position v).byte
      if position > last || (v > 0 && position == last) then (m, position)
      else readOn lang text v fuel last m
    else (m, last)

/-- Lets every version read on. -/
def readAll (lang : Language) (text : Array Char) : Nat → Nat → Nat → Machine → Machine × Nat
  | 0, _, last, m => (m, last)
  | fuel + 1, v, last, m =>
    if v ≥ m.stack.count then (m, last)
    else
      let (m, last) := readOn lang text v actionLimit last m
      readAll lang text fuel (v + 1) last m

/-- Repeats reading and comparing until no version is left or a finished tree is better than
all that go on. -/
def run (lang : Language) (text : Array Char) : Nat → Nat → Machine → Machine
  | 0, _, m => m
  | fuel + 1, last, m =>
    if m.stack.count == 0 then m
    else
      let (m, last) := readAll lang text 1000 0 last m
      let (m, least) := condense lang m
      match m.finished, least with
      | some _, none => m
      | some t, some c => if t.cost < c then m else run lang text fuel last m
      | none, _ => run lang text fuel last m

end Machine

/-- The tree of a text. Each round of the main loop reads at least one token or ends a version,
so the rounds are bounded by the length of the text. -/
def parseTree (lang : Language) (text : Array Char) : Option Subtree :=
  (Machine.run lang text (100 * text.size + 1000) 0 {}).finished

end CodeCatalog.Parsing
