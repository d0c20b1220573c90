import CodeCatalog.Text.Identifier

/-!
# Token patterns

Regular patterns over characters, read one character at a time: after reading `c`, what is
left to match of a pattern is one of finitely many patterns, its *residuals*. A text matches
when reading all of it leaves a pattern that accepts the empty text.

## Main definitions

* `CodeCatalog.Grammar.CharClass` — sets of characters.
* `CodeCatalog.Grammar.Pattern` — regular patterns.
* `CodeCatalog.Grammar.Pattern.residuals` — what is left after one character.
* `CodeCatalog.Grammar.Pattern.accepts` — whole-text matching.
-/

namespace CodeCatalog.Grammar

/-! ## Character classes -/

/-- A set of characters. -/
inductive CharClass where
  /-- One character. -/
  | only (c : Char)
  /-- All characters between two, both included. -/
  | range (first last : Char)
  /-- The characters that may begin a name, the underscore apart. -/
  | nameStart
  /-- The characters that may continue a name. -/
  | nameContinue
  /-- Members of either class. -/
  | union (a b : CharClass)
  /-- Everything outside a class. -/
  | compl (a : CharClass)
deriving Repr, BEq, DecidableEq, Hashable, Inhabited

/-- Membership in a class. -/
def CharClass.contains : CharClass → Char → Bool
  | .only a, c => a == c
  | .range first last, c => first ≤ c && c ≤ last
  | .nameStart, c => Identifier.isStart c
  | .nameContinue, c => Identifier.isContinue c
  | .union a b, c => a.contains c || b.contains c
  | .compl a, c => !a.contains c

/-- The class of the characters of a text. -/
def CharClass.anyOf (s : String) : CharClass :=
  match s.toList with
  | [] => .compl (.range (Char.ofNat 0) (Char.ofNat 0x10FFFF))
  | c :: cs => cs.foldl (fun acc d => .union acc (.only d)) (.only c)

/-! ## Patterns -/

/-- A regular pattern over characters. -/
inductive Pattern where
  /-- Exactly these characters, one after the other. -/
  | literal (cs : List Char)
  /-- One character of a class. -/
  | one (set : CharClass)
  /-- The first pattern, then the second. -/
  | seq (a b : Pattern)
  /-- Either pattern. -/
  | alt (a b : Pattern)
  /-- Any number of matches, none included. -/
  | star (a : Pattern)
deriving Repr, BEq, DecidableEq, Hashable, Inhabited

namespace Pattern

/-- The pattern that matches a text and nothing else. -/
def text (s : String) : Pattern := .literal s.toList

/-- The pattern that matches the empty text only. -/
def nothing : Pattern := .literal []

/-- At least one match. -/
def plus (a : Pattern) : Pattern := .seq a (.star a)

/-- One match or none. -/
def opt (a : Pattern) : Pattern := .alt a nothing

/-- All patterns in order. -/
def concat : List Pattern → Pattern
  | [] => nothing
  | [a] => a
  | a :: as => .seq a (concat as)

/-- Any of a nonempty list of patterns. -/
def oneOf : List Pattern → Pattern
  | [] => .one (CharClass.anyOf "")
  | [a] => a
  | a :: as => .alt a (oneOf as)

/-- Exactly `n` matches in a row. -/
def times (a : Pattern) : Nat → Pattern
  | 0 => nothing
  | 1 => a
  | n + 1 => .seq a (times a n)

/-- Whether the empty text matches. -/
def nullable : Pattern → Bool
  | .literal cs => cs.isEmpty
  | .one _ => false
  | .seq a b => a.nullable && b.nullable
  | .alt a b => a.nullable || b.nullable
  | .star _ => true

/-- Puts `b` behind `a`, dropping an `a` that has nothing left to match. -/
def andThen (a b : Pattern) : Pattern :=
  match a with
  | .literal [] => b
  | a => .seq a b

/-- What may be left to match after reading `c`. -/
def residuals (c : Char) : Pattern → List Pattern
  | .literal [] => []
  | .literal (d :: ds) => if c == d then [.literal ds] else []
  | .one set => if set.contains c then [nothing] else []
  | .seq a b =>
    let first := (a.residuals c).map (andThen · b)
    if a.nullable then first ++ b.residuals c else first
  | .alt a b => a.residuals c ++ b.residuals c
  | .star a => (a.residuals c).map (andThen · (.star a))

/-- What may be left of any of several patterns after reading `c`, without repetitions. -/
def step (c : Char) (ps : List Pattern) : List Pattern :=
  (ps.flatMap (residuals c)).eraseDups

/-- Whether the whole text matches. -/
def accepts (p : Pattern) (s : List Char) : Bool :=
  (s.foldl (fun ps c => step c ps) [p]).any nullable

/-- Whether some match begins with `c`. -/
def canStartWith (p : Pattern) (c : Char) : Bool := !(p.residuals c).isEmpty

end Pattern

end CodeCatalog.Grammar
