import CodeCatalog.Error
import CodeCatalog.Tokens.Pieces

/-!
# Counting tokens

A text is cut at the special tokens that are allowed, and the stretches between them into pieces.
How many tokens a piece is stands in the tables of its encoding, which are no part of this library:
whatever counts tokens is given a vocabulary.

## Main definitions

* `CodeCatalog.Vocabulary` — the tokens of pieces.
* `CodeCatalog.TokenCounter` — a model with the special tokens that are allowed.
* `CodeCatalog.TokenCounter.ofModel` — the counter of a model.
* `CodeCatalog.TokenCounter.count` — the number of tokens of a text.
-/

namespace CodeCatalog

/-- How many tokens a piece of a text is, for every encoding. -/
abbrev Vocabulary := Encoding → List Char → Nat

/-- Counts the tokens of texts as a model sees them. -/
structure TokenCounter where
  model : String
  encoding : Encoding
  /-- The special tokens that may occur in texts; others are plain text. -/
  allowedSpecial : List String
deriving Repr, BEq, DecidableEq, Inhabited

namespace TokenCounter

/-- The special tokens among some names, each once and in a fixed order. -/
def resolveSpecial (names : List String) : List String :=
  Encoding.allSpecialTokens.filter names.contains

/-- The counter of a model. -/
def ofModel (model : String) (allowedSpecial : List String) : Except Error TokenCounter :=
  match Encoding.ofModel? model with
  | some encoding => .ok ⟨model, encoding, resolveSpecial allowedSpecial⟩
  | none => .error (.unsupportedModel model)

/-- The special tokens that a counter looks for. -/
def activeSpecial (c : TokenCounter) : List (List Char) :=
  (c.encoding.specialTokens.filter c.allowedSpecial.contains).map String.toList

/-- The number of tokens of a stretch of plain text. -/
def countPlain (v : Vocabulary) (c : TokenCounter) (cs : List Char) : Nat :=
  (Pieces.split (Pieces.rules c.encoding) cs).foldl (fun n piece => n + v c.encoding piece) 0

/-- Counts from left to right; `plain` is the plain text since the last special token, in
reverse, and `skip` the number of characters left of a special token. -/
def countFrom (v : Vocabulary) (c : TokenCounter) (plain : List Char) : Nat → List Char → Nat
  | _, [] => c.countPlain v plain.reverse
  | skip + 1, _ :: cs => countFrom v c plain skip cs
  | 0, x :: cs =>
    match c.activeSpecial.find? (·.isPrefixOf (x :: cs)) with
    | some token => c.countPlain v plain.reverse + 1 + countFrom v c [] (token.length - 1) cs
    | none => countFrom v c (x :: plain) 0 cs

/-- The number of tokens of a text. -/
def count (v : Vocabulary) (c : TokenCounter) (text : String) : Nat :=
  c.countFrom v [] 0 text.toList

end TokenCounter

end CodeCatalog
