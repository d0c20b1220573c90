import Std.Data.HashMap
import CodeCatalog.Text.Bytes
import CodeCatalog.Grammar.Automaton

/-!
# Reading tokens

A token is read among those that the parser could use next. The longest match wins; of
matches of one length, higher precedence, then fixed texts, then the earlier token. Keywords
are read as words first and then recognised by their spelling.

## Main definitions

* `CodeCatalog.Grammar.Lexicon` — the tokens of a grammar, arranged for reading.
* `CodeCatalog.Grammar.Lexicon.read` — the next token at a position.
-/

namespace CodeCatalog.Grammar

/-- The tokens of a grammar, arranged for reading. -/
structure Lexicon where
  /-- The pattern of each terminal. -/
  patterns : Array (Option TokenPattern)
  /-- The terminals that can begin with each ASCII character. -/
  starts : Array (Array Nat)
  /-- All terminals that have a pattern. -/
  readable : Array Nat
  blanks : CharClass
  word : Nat
  /-- The keywords by their spelling. -/
  keywords : Std.HashMap String Nat
deriving Inhabited

/-- A terminal that is being matched: what may be left to read of its pattern. -/
structure Candidate where
  terminal : Nat
  token : TokenPattern
  rest : List Pattern
deriving Inhabited

/-- The result of looking for a token. -/
inductive Reading where
  /-- A token and where it begins and ends. -/
  | found (terminal : Nat) (start stop : Position)
  /-- No token begins here: where the blanks end, and how far the text was read. -/
  | stuck (start reached : Position)
deriving Inhabited

namespace Lexicon

/-- The fixed texts that are words of the grammar. -/
def keywordsOf (g : PlainGrammar) : Std.HashMap String Nat :=
  match (g.terminals[g.word]?).bind (·.lexeme) with
  | none => {}
  | some word =>
    (List.range g.terminalCount).foldl (fun acc t =>
      match (g.terminals[t]?).bind (·.lexeme) with
      | none => acc
      | some token =>
        let text := PlainGrammar.textOf token
        if token.isText && !token.immediate && word.pattern.accepts text.toList then
          acc.insert text t
        else acc) {}

/-- The lexicon of a grammar. -/
def ofGrammar (g : PlainGrammar) : Lexicon :=
  let patterns := g.terminals.map (·.lexeme)
  let keywords := keywordsOf g
  let isKeyword (t : Nat) : Bool := keywords.fold (fun acc _ k => acc || k == t) false
  let readable := (Array.range g.terminalCount).filter fun t =>
    (patterns.getD t none).isSome && !isKeyword t
  let starts := (Array.range 128).map fun n =>
    readable.filter fun t => match patterns.getD t none with
      | some token => token.pattern.canStartWith (Char.ofNat n)
      | none => false
  { patterns, starts, readable, blanks := g.blanks, word := g.word, keywords }

/-- The set of terminals to look for where the parser could use the terminals of `valid`: a
keyword is read as a word. -/
def wanted (lx : Lexicon) (valid : Nat) : Nat :=
  let keywords := lx.keywords.fold (fun acc _ t => acc ||| (1 <<< t)) 0
  let others := valid ^^^ (valid &&& keywords)
  if valid &&& keywords == 0 then others else others ||| (1 <<< lx.word)

/-- The terminals that can begin with `c`. -/
def startingWith (lx : Lexicon) (c : Char) : Array Nat :=
  if c.toNat < 128 then lx.starts.getD c.toNat #[] else lx.readable

/-- A character that no pattern names. -/
def unnamed : Char := Char.ofNat 0x10FFFF

/-- The null character looks like the end of a text. It is read only where it leads elsewhere
than a character that no pattern names, that is, where some pattern asks for it. -/
def exceptNull (c : Char) (after : Char → List Candidate) : List Candidate :=
  let key (cand : Candidate) : Nat × List Pattern := (cand.terminal, cand.rest)
  if c.toNat == 0 && (after c).map key == (after unnamed).map key then [] else after c

/-- The wanted terminals that can begin with `c`, after reading it. -/
def candidates (lx : Lexicon) (wanted : Nat) (afterBlank : Bool) (c : Char) :
    List Candidate :=
  (lx.startingWith c).toList.filterMap fun t =>
    if wanted.testBit t then
      match lx.patterns.getD t none with
      | none => none
      | some token =>
        if token.immediate && afterBlank then none
        else
          let rest := Pattern.step c [token.pattern]
          if rest.isEmpty then none else some ⟨t, token, rest⟩
    else none

/-- The implicit rank of a token: fixed texts before patterns, immediate ones first. -/
def implicitRank (t : TokenPattern) : Nat :=
  (if t.isText then 2 else 0) + (if t.immediate then 1 else 0)

/-- Whether, of two matches of one length, the first is chosen. -/
def preferred (a b : Candidate) : Bool :=
  if a.token.precedence != b.token.precedence then a.token.precedence > b.token.precedence
  else if implicitRank a.token != implicitRank b.token then
    implicitRank a.token > implicitRank b.token
  else a.terminal < b.terminal

/-- The candidate that has been matched completely, the preferred one of several. -/
def completed (live : List Candidate) : Option Candidate :=
  live.foldl (fun best cand =>
    if cand.rest.any Pattern.nullable then
      match best with
      | none => some cand
      | some b => if preferred b cand then best else some cand
    else best) none

/-- The candidates after one more character. -/
def stepAll (c : Char) (live : List Candidate) : List Candidate :=
  live.filterMap fun cand =>
    let rest := Pattern.step c cand.rest
    if rest.isEmpty then none else some { cand with rest }

/-- Reads on as long as some candidate can; a complete match of higher precedence than all
that go on ends the reading. -/
def munch (text : Array Char) (start : Position) : Nat → List Candidate → Position →
    Option (Nat × Position) → Reading
  | 0, _, pos, _ => .stuck start pos
  | fuel + 1, live, pos, best =>
    let done := completed live
    let best := match done with
      | some cand => some (cand.terminal, pos)
      | none => best
    let finish : Reading := match best with
      | some (t, stop) => .found t start stop
      | none => .stuck start pos
    match text[pos.offset]? with
    | none => finish
    | some c =>
      match exceptNull c (stepAll · live) with
      | [] => finish
      | next =>
        match done with
        | some cand =>
          if next.all (·.token.precedence < cand.token.precedence) then finish
          else munch text start fuel next (pos.after c) best
        | none => munch text start fuel next (pos.after c) best

/-- The next token at a position among the wanted terminals, after blanks. The end of the text
is the terminal `0`. -/
def readFrom (lx : Lexicon) (text : Array Char) (wanted : Nat) :
    Nat → Bool → Position → Reading
  | 0, _, pos => .stuck pos pos
  | fuel + 1, afterBlank, pos =>
    match text[pos.offset]? with
    | none => if wanted.testBit 0 then .found 0 pos pos else .stuck pos pos
    | some c =>
      match exceptNull c (lx.candidates wanted afterBlank) with
      | [] =>
        if lx.blanks.contains c then readFrom lx text wanted fuel true (pos.after c)
        else .stuck pos pos
      | live => munch text pos (text.size - pos.offset + 1) live (pos.after c) none

/-- The next token at a position among the wanted terminals, after blanks. -/
def read (lx : Lexicon) (text : Array Char) (wanted : Nat) (pos : Position) : Reading :=
  readFrom lx text wanted (text.size - pos.offset + 1) false pos

/-- The keyword spelled by a stretch of the text. -/
def keyword? (lx : Lexicon) (text : Array Char) (start stop : Position) : Option Nat :=
  lx.keywords[String.ofList (text.extract start.offset stop.offset).toList]?

end Lexicon

end CodeCatalog.Grammar
