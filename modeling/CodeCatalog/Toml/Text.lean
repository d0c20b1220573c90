import CodeCatalog.Toml.Blank

/-!
# Texts in settings files

A text stands in double quotes, with escapes, or in single quotes, without. With three quotes it
may run over several lines, and up to two quotes in a row belong to it.

## Main definitions

* `CodeCatalog.Toml.basicText`, `literalText` — texts on one line.
* `CodeCatalog.Toml.basicBlock`, `literalBlock` — texts over several lines.
* `CodeCatalog.Toml.anyText` — a text of any form.
-/

namespace CodeCatalog.Toml

/-! ## Escapes -/

/-- The value of a hexadecimal digit. -/
def hexValue? (x : Char) : Option Nat :=
  if x.isDigit then some (x.toNat - 48)
  else if 'a' ≤ x ∧ x ≤ 'f' then some (x.toNat - 87)
  else if 'A' ≤ x ∧ x ≤ 'F' then some (x.toNat - 55)
  else none

/-- Whether a character is a hexadecimal digit. -/
def isHexDigit (x : Char) : Bool := (hexValue? x).isSome

/-- The number of digits in some base; characters that are no digits do not count. -/
def numberOf (base : Nat) (digits : List Char) : Nat :=
  (digits.filterMap hexValue?).foldl (fun n d => n * base + d) 0

/-- The character with a number, if there is one. -/
def charOf? (n : Nat) : Option Char := if n.isValidChar then some (Char.ofNat n) else none

/-- Reads a character by a fixed count of hexadecimal digits. -/
def hexEscape (count : Nat) : Reader Char :=
  checked (upTo count isHexDigit) fun digits =>
    if digits.length = count then charOf? (numberOf 16 digits) else none

/-- The character of a short escape. -/
def shortEscape? (x : Char) : Option Char :=
  if x = 'b' then some (Char.ofNat 8)
  else if x = 'f' then some (Char.ofNat 12)
  else if x = 'n' then some '\n'
  else if x = 'r' then some '\r'
  else if x = 't' then some '\t'
  else if x = '\\' then some '\\'
  else if x = '"' then some '"'
  else none

/-- Reads what stands behind the backslash of an escape. The place of an unknown escape is the
end of its first byte, or its begin if the byte is only a part of a character. -/
def escapeBody : Reader Char := fun c =>
  match c.rest with
  | [] => .miss c
  | x :: _ =>
    if x = 'u' then firm (hexEscape 4) c.advance
    else if x = 'U' then firm (hexEscape 8) c.advance
    else
      match shortEscape? x with
      | some y => .done y c.advance
      | none => .fail (if isForeign x then c else c.advance)

/-- Reads an escape. -/
def escape : Reader Char := do
  let _ ← symbol '\\'
  escapeBody

/-! ## Texts on one line -/

/-- Characters that stand for themselves between double quotes. -/
def isBasicChar (x : Char) : Bool :=
  isBlank x || (isVisible x && x != '"' && x != '\\') || isForeign x

/-- Characters that may stand between single quotes. -/
def isLiteralChar (x : Char) : Bool := isBlank x || (isVisible x && x != '\x27') || isForeign x

/-- A text in double quotes. -/
def basicText : Reader (List Char) := do
  let _ ← symbol '"'
  let body ← repeated (orElse (charWhere isBasicChar) escape)
  let _ ← firm (symbol '"')
  return body

/-- A text in single quotes. -/
def literalText : Reader (List Char) := do
  let _ ← symbol '\x27'
  let body ← charsWhere isLiteralChar
  let _ ← firm (symbol '\x27')
  return body

/-! ## Texts over several lines -/

/-- Three quotes. -/
def delimiter (quote : Char) : Reader Unit := do
  let _ ← literal [quote, quote, quote]

/-- One or two quotes with something behind them. -/
def quotesBefore (quote : Char) (behind : Reader Unit) : Reader (List Char) :=
  orElse (do let qs ← literal [quote, quote]; peek behind; return qs)
    (do let qs ← literal [quote]; peek behind; return qs)

/-- A character other than a quote. -/
def otherThan (quote : Char) : Reader Unit := do
  let _ ← charWhere (· != quote)

/-- The end of a line as a part of a text. -/
def lineChar : Reader (List Char) := do
  newline
  return ['\n']

/-- A backslash at the end of a line; it swallows all blanks up to the next visible character. -/
def joinedLines : Reader (List Char) := do
  let _ ← repeatedOnce do
    let _ ← symbol '\\'
    blanks
    newline
    blanksAndLines
  return []

/-- A piece of a text between three double quotes. -/
def basicPiece : Reader (List Char) :=
  orElse (someWhere isBasicChar)
    (orElse joinedLines (orElse (do let x ← escape; return [x]) lineChar))

/-- A piece of a text between three single quotes. -/
def literalPiece : Reader (List Char) :=
  orElse (do let x ← charWhere isLiteralChar; return [x]) lineChar

/-- The text between three quotes. Quotes that are not the last ones need a piece behind them. -/
def blockBody (quote : Char) (pieces quotedPieces : Reader (List Char)) : Reader (List Char) := do
  let first ← pieces
  let more ← repeated do
    let qs ← quotesBefore quote (otherThan quote)
    let text ← quotedPieces
    return qs ++ text
  let last ← maybe (quotesBefore quote (delimiter quote))
  return first ++ more.flatten ++ last.getD []

/-- Pieces of a text. -/
def pieces (piece : Reader (List Char)) : Reader (List Char) := do
  let ps ← repeated piece
  return ps.flatten

/-- Pieces of a text, at least one. -/
def somePieces (piece : Reader (List Char)) : Reader (List Char) := do
  let ps ← repeatedOnce piece
  return ps.flatten

/-- A text between three double quotes; the end of a line right behind the first ones does not
belong to it. -/
def basicBlock : Reader (List Char) := do
  delimiter '"'
  let _ ← maybe newline
  let body ← firm (blockBody '"' (pieces basicPiece) (demand (somePieces basicPiece)))
  firm (delimiter '"')
  return body

/-- A text between three single quotes. -/
def literalBlock : Reader (List Char) := do
  delimiter '\x27'
  let _ ← maybe newline
  let body ← firm (blockBody '\x27' (pieces literalPiece) (somePieces literalPiece))
  firm (delimiter '\x27')
  return body

/-- A text of any form. -/
def anyText : Reader (List Char) :=
  orElse basicBlock (orElse basicText (orElse literalBlock literalText))

end CodeCatalog.Toml
