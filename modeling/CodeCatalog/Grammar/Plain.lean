import CodeCatalog.Grammar.Rule

/-!
# Plain grammars

The form of a grammar that a parser automaton is built from: numbered terminals and
nonterminals, and productions that are plain sequences of symbols. Repetitions become
auxiliary nonterminals with a binary recursion, alternatives become productions, and the rules
marked for it are put in the place of their uses.

Symbols are numbered: `0` is the end of the input, `1` the word token, then the other
terminals in the order in which the rules mention them, then the tokens that only the layout
scanner produces, then the nonterminals.

## Main definitions

* `CodeCatalog.Grammar.PlainGrammar` — terminals, nonterminals and productions.
* `CodeCatalog.Grammar.PlainGrammar.ofSource` — the plain form of a grammar.
-/

namespace CodeCatalog.Grammar

/-! ## Symbols and productions -/

/-- One symbol on the right-hand side of a production. -/
structure Step where
  symbol : Nat
  level : Option Int := none
  assoc : Option Assoc := none
  renamed : Option Alias := none
  field : Option String := none
deriving Repr, BEq, DecidableEq, Hashable, Inhabited

/-- A production: a nonterminal (counted from the first nonterminal) and its symbols. -/
structure Production where
  head : Nat
  steps : Array Step
  rank : Int := 0
deriving Repr, BEq, DecidableEq, Hashable, Inhabited

/-- How a symbol shows in the tree. -/
structure Appearance where
  name : String
  visible : Bool
  named : Bool
deriving Repr, BEq, DecidableEq, Hashable, Inhabited

/-- A terminal symbol. -/
structure Terminal where
  shown : Appearance
  /-- How the token is recognised; `none` for the end of input and for tokens that only the
  layout scanner produces. -/
  lexeme : Option TokenPattern
deriving Repr, Inhabited

/-- A nonterminal symbol. -/
structure Nonterminal where
  shown : Appearance
  /-- Whether the rule asks for no node of its own, whatever its uses are called. -/
  hidden : Bool
  /-- Introduced for a repetition. -/
  auxiliary : Bool := false
  supertype : Bool := false
deriving Repr, Inhabited

/-- A grammar as numbered symbols and productions. -/
structure PlainGrammar where
  terminals : Array Terminal
  nonterminals : Array Nonterminal
  productions : Array Production
  start : Nat
  word : Nat
  extras : List Nat
  blanks : CharClass
  /-- The tokens of the layout scanner, in its own order. -/
  external : Array Nat
deriving Inhabited

namespace PlainGrammar

/-- The number of terminals, which is also the number of the first nonterminal. -/
def terminalCount (g : PlainGrammar) : Nat := g.terminals.size

/-- The number of symbols. -/
def symbolCount (g : PlainGrammar) : Nat := g.terminals.size + g.nonterminals.size

/-- How a symbol shows in the tree. -/
def shown (g : PlainGrammar) (symbol : Nat) : Appearance :=
  if symbol < g.terminalCount then
    match g.terminals[symbol]? with
    | some t => t.shown
    | none => default
  else
    match g.nonterminals[symbol - g.terminalCount]? with
    | some v => v.shown
    | none => default

end PlainGrammar

/-! ## Tokens of a rule -/

/-- The pattern of a fixed text. -/
def TokenPattern.ofText (s : String) : TokenPattern :=
  { pattern := .text s, isText := true }

mutual

/-- The tokens that a rule mentions, in order, with repetitions. -/
def Rule.tokens : Rule → List TokenPattern
  | .blank => []
  | .text s => [.ofText s]
  | .token t => [t]
  | .ref _ => []
  | .seq parts => tokensOfList parts
  | .choice parts => tokensOfList parts
  | .repeat1 r => r.tokens
  | .prec _ _ r => r.tokens
  | .dynamic _ r => r.tokens
  | .field _ r => r.tokens
  | .rename _ r => r.tokens

/-- The tokens that the rules of a list mention, in order. -/
def Rule.tokensOfList : List Rule → List TokenPattern
  | [] => []
  | r :: rs => r.tokens ++ tokensOfList rs

end

/-- The token that a rule consists of, when it is nothing but one. -/
def Rule.asToken : Rule → Option TokenPattern
  | .text s => some (.ofText s)
  | .token t => some t
  | _ => none

/-! ## Repetitions -/

/-- The repetitions met so far: the repeated rule and the auxiliary name given to it. -/
abbrev Repetitions := Array (Rule × String)

/-- The auxiliary name for repetitions of `body`, introduced when it is new. -/
def nameRepetition (owner : String) (body : Rule) (found : Repetitions) :
    Rule × Repetitions :=
  match found.find? (fun entry => entry.1 == body) with
  | some (_, name) => (.ref name, found)
  | none =>
    let name := s!"{owner}#{found.size}"
    (.ref name, found.push (body, name))

mutual

/-- Replaces the repetitions inside a rule by auxiliary nonterminals. -/
def Rule.nameRepetitions (owner : String) (found : Repetitions) : Rule → Rule × Repetitions
  | .seq parts =>
    let (parts, found) := nameRepetitionsList owner found parts
    (.seq parts, found)
  | .choice parts =>
    let (parts, found) := nameRepetitionsList owner found parts
    (.choice parts, found)
  | .repeat1 r =>
    let (body, found) := r.nameRepetitions owner found
    nameRepetition owner body found
  | .prec level assoc r =>
    let (body, found) := r.nameRepetitions owner found
    (.prec level assoc body, found)
  | .dynamic rank r =>
    let (body, found) := r.nameRepetitions owner found
    (.dynamic rank body, found)
  | .field name r =>
    let (body, found) := r.nameRepetitions owner found
    (.field name body, found)
  | .rename as r =>
    let (body, found) := r.nameRepetitions owner found
    (.rename as body, found)
  | r => (r, found)

/-- Replaces the repetitions inside the rules of a list. -/
def Rule.nameRepetitionsList (owner : String) (found : Repetitions) :
    List Rule → List Rule × Repetitions
  | [] => ([], found)
  | r :: rs =>
    let (r, found) := r.nameRepetitions owner found
    let (rs, found) := nameRepetitionsList owner found rs
    (r :: rs, found)

end

/-- The rule of the auxiliary nonterminal `name` for repetitions of `body`: two shorter
repetitions or a single occurrence. -/
def repetitionRule (name : String) (body : Rule) : Rule :=
  .choice [.seq [.ref name, .ref name], body]

/-! ## Alternatives and steps -/

mutual

/-- The alternatives of a rule, each free of choices. -/
def Rule.alternatives : Rule → List Rule
  | .seq parts => alternativesOfSeq [.blank] parts
  | .choice parts => alternativesOfChoice parts
  | .prec level assoc r => r.alternatives.map (.prec level assoc ·)
  | .dynamic rank r => r.alternatives.map (.dynamic rank ·)
  | .field name r => r.alternatives.map (.field name ·)
  | .rename as r => r.alternatives.map (.rename as ·)
  | r => [r]

/-- The alternatives of a sequence that begins with one of `done`. -/
def Rule.alternativesOfSeq (done : List Rule) : List Rule → List Rule
  | [] => done
  | r :: rs =>
    let next := r.alternatives
    alternativesOfSeq (done.flatMap fun d => next.map fun n => .seq [d, n]) rs

/-- The alternatives of a choice, in order. -/
def Rule.alternativesOfChoice : List Rule → List Rule
  | [] => []
  | r :: rs => r.alternatives ++ alternativesOfChoice rs

end

/-- The decorations in force where a symbol stands. -/
structure StepContext where
  level : Option Int := none
  assoc : Option Assoc := none
  renamed : Option Alias := none
  field : Option String := none
deriving Inhabited

/-- The steps gathered so far and the rank of strongest effect met. -/
structure StepList where
  steps : Array Step := #[]
  rank : Int := 0
deriving Inhabited

/-- Changes the last step. -/
def StepList.mapLast (acc : StepList) (f : Step → Step) : StepList :=
  { acc with steps := acc.steps.modify (acc.steps.size - 1) f }

mutual

/-- Adds the steps of a rule without choices. Where a precedence ends before the production
does, the last step under it takes the precedence outside; the flag tells whether the rule
stands at the end of the production, and the result whether a step was added. -/
def Rule.addSteps (number : Rule → Nat) (ctx : StepContext) (atEnd : Bool) (acc : StepList) :
    Rule → StepList × Bool
  | .blank => (acc, false)
  | .seq parts => addStepsList number ctx atEnd acc parts
  | .prec level assoc r =>
    let inner := { ctx with level := some level, assoc := assoc <|> ctx.assoc }
    let (acc, added) := r.addSteps number inner atEnd acc
    if added && !atEnd then
      let acc := acc.mapLast fun s => { s with level := ctx.level }
      if assoc.isSome then (acc.mapLast fun s => { s with assoc := ctx.assoc }, added)
      else (acc, added)
    else (acc, added)
  | .dynamic rank r =>
    let acc := if rank.natAbs > acc.rank.natAbs then { acc with rank := rank } else acc
    r.addSteps number ctx atEnd acc
  | .field name r => r.addSteps number { ctx with field := some name } atEnd acc
  | .rename as r => r.addSteps number { ctx with renamed := some as } atEnd acc
  | r =>
    let step : Step :=
      { symbol := number r, level := ctx.level, assoc := ctx.assoc, renamed := ctx.renamed,
        field := ctx.field }
    ({ acc with steps := acc.steps.push step }, true)

/-- Adds the steps of a list of rules; only the last of them can stand at the end. -/
def Rule.addStepsList (number : Rule → Nat) (ctx : StepContext) (atEnd : Bool)
    (acc : StepList) : List Rule → StepList × Bool
  | [] => (acc, false)
  | r :: rs =>
    let (acc, a) := r.addSteps number ctx (atEnd && rs.isEmpty) acc
    let (acc, b) := addStepsList number ctx atEnd acc rs
    (acc, a || b)

end

/-- Adds `a` at the end unless it is already there. -/
def pushNew {α : Type} [BEq α] (xs : Array α) (a : α) : Array α :=
  if xs.contains a then xs else xs.push a

/-- The productions of a rule. -/
def Rule.productions (number : Rule → Nat) (head : Nat) (r : Rule) : Array Production :=
  r.alternatives.foldl (fun acc alternative =>
    let (list, _) := alternative.addSteps number {} true {}
    pushNew acc { head, steps := list.steps, rank := list.rank }) #[]

/-! ## Inlining -/

/-- Puts the production `inner` in the place of step `i` of `outer`. The alias and the field of
the replaced step pass to all inserted steps, its precedence to the last one. -/
def Production.inlineAt (outer : Production) (i : Nat) (inner : Production) : Production :=
  match outer.steps[i]? with
  | none => outer
  | some removed =>
    let inserted := inner.steps.map fun s =>
      { s with renamed := removed.renamed <|> s.renamed, field := removed.field <|> s.field }
    let inserted := inserted.modify (inserted.size - 1) fun s =>
      { s with level := s.level <|> removed.level, assoc := s.assoc <|> removed.assoc }
    { outer with
      steps := outer.steps.extract 0 i ++ inserted ++ outer.steps.extract (i + 1) outer.steps.size
      rank := if inner.rank.natAbs > outer.rank.natAbs then inner.rank else outer.rank }

/-- Replaces the inlined symbols of a production until none is left. Every round replaces the
first of them in each production; the fuel bounds the number of rounds. -/
def inlineAll (isInlined : Nat → Bool) (productionsOf : Nat → Array Production) :
    Nat → Array Production → Array Production
  | 0, ps => ps
  | fuel + 1, ps =>
    if ps.any (fun p => p.steps.any (isInlined ·.symbol)) then
      inlineAll isInlined productionsOf fuel <| ps.foldl (fun acc p =>
        match p.steps.findIdx? (isInlined ·.symbol) with
        | none => pushNew acc p
        | some i =>
          match p.steps[i]? with
          | none => pushNew acc p
          | some s => (productionsOf s.symbol).foldl (fun acc q => pushNew acc (p.inlineAt i q)) acc)
        #[]
    else ps

/-! ## Default aliases -/

/-- The alias of a symbol that never appears without one: the most frequent, of several the
first. -/
def defaultAlias (steps : Array Step) : Option Alias :=
  if steps.any (·.renamed.isNone) then none
  else
    let counts : Array (Alias × Nat) := steps.foldl (fun acc s =>
      match s.renamed with
      | none => acc
      | some a =>
        match acc.findIdx? (·.1 == a) with
        | some i => acc.modify i fun entry => (entry.1, entry.2 + 1)
        | none => acc.push (a, 1)) #[]
    counts.foldl (fun best entry =>
      match best with
      | none => some entry
      | some b => if entry.2 > b.2 then some entry else best) none |>.map (·.1)

/-! ## Assembly -/

/-- Whether a rule name hides its nodes. -/
def isHiddenName (name : String) : Bool := name.startsWith "_"

namespace PlainGrammar

/-- The tokens of all rules, in order of first mention. -/
def allTokens (src : Source) : Array TokenPattern :=
  src.rules.foldl (fun acc entry => entry.2.tokens.foldl pushNew acc) #[]

/-- How often a token is mentioned. -/
def mentions (src : Source) (t : TokenPattern) : Nat :=
  src.rules.foldl (fun n entry => n + entry.2.tokens.count t) 0

/-- The name of the rule that is nothing but the token, when the token is mentioned nowhere
else: the token then carries the name of the rule, and the rule is no nonterminal. -/
def tokenRule (src : Source) (t : TokenPattern) : Option String :=
  if mentions src t == 1 then
    (src.rules.drop 1).findSome? fun entry =>
      if entry.2.asToken == some t then some entry.1 else none
  else none

/-- The text of a token that is one fixed text. -/
def textOf (t : TokenPattern) : String :=
  match t.pattern with
  | .literal cs => String.ofList cs
  | _ => ""

/-- The terminal of a token: named after its rule, after its text, or hidden. -/
def terminalOf (src : Source) (t : TokenPattern) : Terminal :=
  let shown : Appearance := match tokenRule src t with
    | some name => ⟨name, !isHiddenName name, !isHiddenName name⟩
    | none => if t.isText then ⟨textOf t, true, false⟩ else ⟨"", false, false⟩
  { shown, lexeme := some t }

/-- The plain form of a grammar. -/
def ofSource (src : Source) : PlainGrammar := Id.run do
  -- terminals
  let tokens := allTokens src
  let named := tokens.map fun t => (t, terminalOf src t)
  let wordFirst := named.filter (fun e => e.2.shown.name == src.word) ++
    named.filter (fun e => e.2.shown.name != src.word)
  let known : Array (TokenPattern × Terminal) := wordFirst
  let mut terminals : Array Terminal := #[{ shown := ⟨"end", false, true⟩, lexeme := none }]
  terminals := terminals ++ known.map (·.2)
  let tokenNumber (t : TokenPattern) : Nat :=
    match known.findIdx? (·.1 == t) with
    | some i => i + 1
    | none => 0
  let mut external : Array Nat := #[]
  let mut names : List (String × Nat) := []
  for i in [0:known.size] do
    match known[i]? with
    | some e =>
      match tokenRule src e.1 with
      | some name => names := (name, i + 1) :: names
      | none => pure ()
    | none => pure ()
  for rule in src.external do
    match rule with
    | .ref name =>
      match names.find? (·.1 == name) with
      | some (_, n) => external := external.push n
      | none =>
        external := external.push terminals.size
        names := (name, terminals.size) :: names
        let shown : Appearance := ⟨name, !isHiddenName name, !isHiddenName name⟩
        terminals := terminals.push { shown, lexeme := none }
    | .text s => external := external.push (tokenNumber (.ofText s))
    | _ => pure ()
  let first := terminals.size
  -- nonterminals
  let mut rules : Array (String × Rule) := #[]
  let mut found : Repetitions := #[]
  for (name, rule) in src.rules do
    if names.all (·.1 != name) then
      let (rule, more) := rule.nameRepetitions name found
      rules := rules.push (name, rule)
      found := more
  let mut nonterminals : Array Nonterminal := #[]
  for (name, _) in rules do
    let supertype := src.supertypes.contains name
    let visible := !isHiddenName name && !supertype
    nonterminals := nonterminals.push 
      { shown := ⟨name, visible, visible⟩, hidden := !visible, supertype }
  for (body, name) in found do
    rules := rules.push (name, repetitionRule name body)
    nonterminals := nonterminals.push
      { shown := ⟨name, false, false⟩, hidden := true, auxiliary := true }
  let allRules := rules
  let number (r : Rule) : Nat := match r with
    | .text s => tokenNumber (.ofText s)
    | .token t => tokenNumber t
    | .ref name =>
      match names.find? (·.1 == name) with
      | some (_, n) => n
      | none =>
        match allRules.findIdx? (·.1 == name) with
        | some i => first + i
        | none => 0
    | _ => 0
  -- productions
  let mut perHead : Array (Array Production) := #[]
  for i in [0:allRules.size] do
    match allRules[i]? with
    | some (_, rule) => perHead := perHead.push (rule.productions number i)
    | none => pure ()
  -- default aliases
  let inlinedSymbols := src.inlined.map fun name => number (.ref name)
  let extras := src.extras.map fun name => number (.ref name)
  let steps := perHead.foldl (fun acc ps => ps.foldl (fun acc p => acc ++ p.steps) acc) #[]
  for symbol in [1:first + nonterminals.size] do
    if !inlinedSymbols.contains symbol && !extras.contains symbol then
      match defaultAlias (steps.filter (·.symbol == symbol)) with
      | none => pure ()
      | some a =>
        perHead := perHead.map fun ps => ps.map fun p =>
          { p with steps := p.steps.map fun s =>
              if s.symbol == symbol && s.renamed == some a then { s with renamed := none } else s }
        let shown : Appearance := ⟨a.name, true, a.named⟩
        if symbol < first then
          terminals := terminals.modify symbol fun t => { t with shown }
        else
          nonterminals := nonterminals.modify (symbol - first) fun v => { v with shown }
  -- inlining
  let perHeadFinal := perHead
  let inlineOf (symbol : Nat) : Array Production :=
    match perHeadFinal[symbol - first]? with
    | some ps => ps
    | none => #[]
  let productions := perHeadFinal.foldl (fun acc ps =>
    acc ++ inlineAll inlinedSymbols.contains inlineOf 16 ps) #[]
  return { terminals, nonterminals, productions, start := 0, word := 1, extras,
           blanks := src.blanks, external }

end PlainGrammar

end CodeCatalog.Grammar
