import CodeCatalog.Grammar.Lexicon
import CodeCatalog.Parsing.Subtree

/-!
# A language ready for parsing

The grammar, its automaton and its lexicon together, and the reading of the next token in a
state: first the layout scanner, then the patterns of the tokens that the state can use; when
neither finds one, all tokens are tried, and characters that begin none are skipped.

## Main definitions

* `CodeCatalog.Parsing.Language` — a language.
* `CodeCatalog.Parsing.Language.ofSource` — the language of a grammar.
* `CodeCatalog.Parsing.Language.nextToken` — the next token in a state.
-/

namespace CodeCatalog.Parsing

open Grammar Python

/-- A grammar with its tables. -/
structure Language where
  grammar : PlainGrammar
  automaton : Automaton
  lexicon : Lexicon
  /-- For each state, the terminals to look for. -/
  wanted : Array Nat
  /-- For each state, the layout tokens that it can use. -/
  layoutWanted : Array Nat
deriving Inhabited

namespace Language

/-! ## Tables -/

/-- The terminals with an action in a row, as a set. -/
def usable (row : StateRow) : Nat :=
  (Array.range row.actions.size).foldl (fun acc t =>
    if (row.actions.getD t #[]).isEmpty then acc else acc ||| (1 <<< t)) 0

/-- The terminals that can be skipped one by one after an error: all but the patterns that
match almost anything, which have a precedence of their own without being bound to the token
before. -/
def skippable (g : PlainGrammar) : Nat :=
  (List.range g.terminalCount).foldl (fun acc t =>
    match (g.terminals[t]?).bind (·.lexeme) with
    | some token => if (0 : Int) < token.precedence && !token.immediate then acc else acc ||| (1 <<< t)
    | none => acc ||| (1 <<< t)) 0

/-- The row of the error state. -/
def errorRow (g : PlainGrammar) : StateRow :=
  let set := skippable g
  { actions := (Array.range g.terminalCount).map fun t =>
      if set.testBit t then #[.recover] else #[]
    gotos := Array.replicate g.nonterminals.size 0 }

/-- The language of a grammar. -/
def ofSource (src : Source) : Language :=
  let grammar := PlainGrammar.ofSource src
  let automaton := Automaton.build grammar
  let automaton := { automaton with rows := automaton.rows.set! 0 (errorRow grammar) }
  let lexicon := Lexicon.ofGrammar grammar
  let sets := automaton.rows.map usable
  { grammar, automaton, lexicon
    wanted := sets.map lexicon.wanted
    layoutWanted := sets.map fun set =>
      (List.range grammar.external.size).foldl (fun acc i =>
        if set.testBit (grammar.external.getD i 0) then acc ||| (1 <<< i) else acc) 0 }

/-- The actions in a state on a terminal. -/
def actions (lang : Language) (state symbol : Nat) : Array Action :=
  lang.automaton.actions state symbol

/-- Whether a terminal can be used in a state. -/
def hasActions (lang : Language) (state symbol : Nat) : Bool :=
  !(lang.actions state symbol).isEmpty

/-- The state after a symbol, `0` when there is none. -/
def next (lang : Language) (state symbol : Nat) : Nat :=
  if symbol < lang.grammar.terminalCount then
    match (lang.actions state symbol).back? with
    | some (.shift target _) => target
    | some .shiftExtra => state
    | _ => 0
  else
    match lang.automaton.rows[state]? with
    | some row => row.gotos.getD (symbol - lang.grammar.terminalCount) 0
    | none => 0

/-- Whether a reduction comes first in a state on a terminal. -/
def reducesFirst (lang : Language) (state symbol : Nat) : Bool :=
  match (lang.actions state symbol)[0]? with
  | some (Action.reduce ..) => true
  | _ => false

/-- A symbol over its children. -/
def build (lang : Language) (symbol shape : Nat) (pos : Position) (children : List Subtree) :
    Subtree :=
  .build lang.grammar lang.automaton.shapes symbol shape pos children

/-! ## Reading tokens -/

/-- Where reading begins: a byte order mark at the begin of the text is passed over. -/
def readingStart (text : Array Char) (pos : Position) : Position :=
  if pos.byte == 0 && text[0]? == some '\ufeff' then pos.advance text else pos

/-- The next token of the layout scanner. One that is empty and leaves the layout as it was is
ignored after an error, since nothing would be gained by it. -/
def layoutToken (lang : Language) (text : Array Char) (valid : Nat) (layout : Option Layout)
    (before pos : Position) (mayBeEmpty : Bool) : Option Subtree :=
  match Layout.scan text valid (layout.getD {}) (readingStart text pos) with
  | none => none
  | some s =>
    let changed := layout != some s.layout
    if s.stop.byte ≤ pos.byte && !changed && !mayBeEmpty then none
    else
      let symbol := lang.grammar.external.getD s.token.number 0
      some <| (Subtree.token lang.grammar symbol before s.start s.stop).mapInfo fun i =>
        { i with layout := some s.layout, layoutChanged := changed }

/-- The token that was read by its pattern; a word spelled like a keyword that the state can
use is that keyword. -/
def patternToken (lang : Language) (text : Array Char) (state symbol : Nat)
    (before start stop : Position) : Subtree :=
  if symbol == lang.lexicon.word then
    match lang.lexicon.keyword? text start stop with
    | none => .token lang.grammar symbol before start stop
    | some k =>
      let symbol := if lang.hasActions state k then k else symbol
      (Subtree.token lang.grammar symbol before start stop).mapInfo fun i =>
        { i with keyword := true }
  else .token lang.grammar symbol before start stop

/-- The set of all layout tokens. -/
def allLayout : Nat := 0xFFF

/-- Reads a token where none fits: all tokens are tried, and characters that begin none become
an error token. `skipped` is the begin and end of what has been skipped so far. -/
def anyToken (lang : Language) (text : Array Char) (state : Nat) (layout : Option Layout)
    (before : Position) : Nat → Option (Position × Position) → Position → Subtree
  | 0, _, pos => .token lang.grammar 0 before pos pos
  | fuel + 1, skipped, pos =>
    let errorToken (start stop : Position) : Subtree :=
      .token lang.grammar errorSymbol before start stop
    match lang.layoutToken text allLayout layout before pos false with
    | some t =>
      match skipped with
      | some (start, stop) => errorToken start stop
      | none => t
    | none =>
      let wanted := lang.wanted.getD Automaton.errorState 0
      match lang.lexicon.read text wanted (readingStart text pos), skipped with
      | .found _ _ _, some (start, stop) => errorToken start stop
      | .found symbol start stop, none => lang.patternToken text state symbol before start stop
      | .stuck start reached, _ =>
        let (first, last) := skipped.getD (start, start)
        if reached.byte == last.byte then
          if reached.offset ≥ text.size then errorToken first last
          else
            let reached := reached.advance text
            anyToken lang text state layout before fuel (some (first, reached)) reached
        else anyToken lang text state layout before fuel (some (first, reached)) reached

/-- The next token at a position in a state. -/
def nextToken (lang : Language) (text : Array Char) (state : Nat) (layout : Option Layout)
    (pos : Position) (hasAdvanced : Bool) : Subtree :=
  let fallback : Unit → Subtree := fun _ =>
    lang.anyToken text state layout pos (text.size + 2) none pos
  if state == Automaton.errorState then fallback ()
  else
    match lang.layoutToken text (lang.layoutWanted.getD state 0) layout pos pos hasAdvanced with
    | some t => t
    | none =>
      match lang.lexicon.read text (lang.wanted.getD state 0) (readingStart text pos) with
      | .found symbol start stop => lang.patternToken text state symbol pos start stop
      | .stuck _ _ => fallback ()

end Language

end CodeCatalog.Parsing
