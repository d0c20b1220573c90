import CodeCatalog.Grammar.Pattern

/-!
# Grammar rules

A grammar is written as named rules over tokens and other rules, decorated with what a parser
generator needs to know: precedences and associativities that settle conflicts, a dynamic
precedence that ranks ambiguous parses, field names for children, and aliases under which a
child appears in the tree.

## Main definitions

* `CodeCatalog.Grammar.Rule` — the right-hand sides.
* `CodeCatalog.Grammar.Source` — a whole grammar as its author writes it.
-/

namespace CodeCatalog.Grammar

/-- How a conflict between reductions and shifts of equal precedence is settled. -/
inductive Assoc where
  | left
  | right
deriving Repr, BEq, DecidableEq, Hashable, Inhabited

/-- The name under which a child appears in the tree in place of its own, and whether the node
so named counts as named. -/
structure Alias where
  name : String
  named : Bool
deriving Repr, BEq, DecidableEq, Hashable, Inhabited

/-- A token given by a pattern rather than by its exact text. -/
structure TokenPattern where
  pattern : Pattern
  /-- The token must follow the previous one without blanks. -/
  immediate : Bool := false
  /-- Among the tokens that match, those of higher precedence win. -/
  precedence : Int := 0
  /-- Whether the token is one fixed text. -/
  isText : Bool := false
deriving Repr, BEq, DecidableEq, Hashable, Inhabited

/-- The right-hand side of a grammar rule. -/
inductive Rule where
  /-- Nothing at all. -/
  | blank
  /-- An anonymous token with this exact text. -/
  | text (s : String)
  /-- A token with this pattern. -/
  | token (t : TokenPattern)
  /-- Another rule, or a token that the layout scanner produces. -/
  | ref (name : String)
  /-- All parts in order. -/
  | seq (parts : List Rule)
  /-- One of the alternatives. -/
  | choice (alternatives : List Rule)
  /-- One or more occurrences. -/
  | repeat1 (body : Rule)
  /-- A precedence, with an associativity when one is given. -/
  | prec (level : Int) (assoc : Option Assoc) (body : Rule)
  /-- A rank among ambiguous parses. -/
  | dynamic (rank : Int) (body : Rule)
  /-- A field name for the children that the body produces. -/
  | field (name : String) (body : Rule)
  /-- Another name for the children that the body produces. -/
  | rename (as : Alias) (body : Rule)
deriving BEq, Inhabited

namespace Rule

/-- The body or nothing. -/
def optional (r : Rule) : Rule := .choice [r, .blank]

/-- Any number of occurrences. -/
def many (r : Rule) : Rule := .choice [.repeat1 r, .blank]

/-- Occurrences of `r` with `separator` between them. -/
def sepBy1 (r separator : Rule) : Rule := .seq [r, many (.seq [separator, r])]

/-- Occurrences of `r` with commas between them. -/
def commaSep1 (r : Rule) : Rule := sepBy1 r (.text ",")

/-- Shows the children of `r` as named nodes called `name`. -/
def shownAs (r : Rule) (name : String) : Rule := .rename ⟨name, true⟩ r

end Rule

/-- A grammar as its author writes it. The first rule is the start symbol. -/
structure Source where
  rules : List (String × Rule)
  /-- Tokens that may stand between any two others. -/
  extras : List String
  /-- The characters skipped between tokens. -/
  blanks : CharClass
  /-- The tokens that a layout scanner may produce or wants to hear about: names of rules, of
  fixed texts, or of tokens that only the scanner knows. -/
  external : List Rule
  /-- Rules that stand for a category of nodes and have no node of their own. -/
  supertypes : List String
  /-- Rules whose alternatives are put in the place of every use. -/
  inlined : List String
  /-- The token that keywords are instances of. -/
  word : String
deriving Inhabited

end CodeCatalog.Grammar
