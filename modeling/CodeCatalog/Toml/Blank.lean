import CodeCatalog.Toml.Reading

/-!
# Blanks, comments and lines

## Main definitions

* `CodeCatalog.Toml.newline` — the end of a line, with or without a carriage return.
* `CodeCatalog.Toml.lineTrailing` — what may follow a statement on its line.
* `CodeCatalog.Toml.betweenItems` — blanks, lines and comments between the items of an array.
-/

namespace CodeCatalog.Toml

/-! ## Kinds of characters -/

/-- Blanks inside a line. -/
def isBlank (x : Char) : Bool := x == ' ' || x == '\t'

/-- Characters outside ASCII; they may stand in every text and comment. -/
def isForeign (x : Char) : Bool := 0x80 ≤ x.toNat

/-- Characters of ASCII that are neither controls nor blanks. -/
def isVisible (x : Char) : Bool := 0x21 ≤ x.toNat && x.toNat ≤ 0x7E

/-- Characters that may stand in a comment. -/
def isCommentChar (x : Char) : Bool := isBlank x || isVisible x || isForeign x

/-! ## Readers -/

/-- Blanks inside a line. -/
def blanks : Reader Unit := do
  let _ ← charsWhere isBlank

/-- The end of a line. The character that should begin it is taken before it is judged, so a
wrong one is noticed behind it. -/
def newline : Reader Unit := fun c =>
  match c.rest with
  | '\n' :: _ => .done () c.advance
  | '\r' :: '\n' :: _ => .done () (c.drop 2)
  | _ :: _ => .miss c.advance
  | [] => .miss c

/-- The end of a line or of the text. -/
def lineEnd : Reader Unit := orElse newline atEnd

/-- A comment, up to the end of its line. -/
def comment : Reader Unit := do
  let _ ← symbol '#'
  let _ ← charsWhere isCommentChar

/-- What may follow a statement on its line. -/
def lineTrailing : Reader Unit := do
  blanks
  let _ ← maybe comment
  lineEnd

/-- Blanks and the ends of lines. -/
def blanksAndLines : Reader Unit := do
  let _ ← repeated (orElse newline do let _ ← someWhere isBlank)

/-- Blanks, lines and comments on at most `rounds` lines. A comment has to end with its line. -/
def betweenItemsWithin : (rounds : Nat) → Reader Unit
  | 0 => fun c => .done () c
  | rounds + 1 => fun c =>
    (blanks c).andThen fun _ c =>
      match c.rest with
      | '#' :: _ =>
        (comment c).andThen fun _ c => (newline c).andThen fun _ c => betweenItemsWithin rounds c
      | '\n' :: _ | '\r' :: _ => (newline c).andThen fun _ c => betweenItemsWithin rounds c
      | _ => .done () c

/-- Blanks, lines and comments between the items of an array. -/
def betweenItems : Reader Unit := fun c => betweenItemsWithin (c.rest.length + 1) c

end CodeCatalog.Toml
