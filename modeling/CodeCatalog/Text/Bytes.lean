/-!
# Positions in a text and stretches of it

A position counts what lies before it in four ways: characters, bytes of the UTF-8 form, line
feeds, and bytes since the last line feed. Stretches of a text are given by byte offsets.

## Main definitions

* `CodeCatalog.Position` — a position.
* `CodeCatalog.Position.after` — the position behind one more character.
* `CodeCatalog.Text.byteSize` — the number of bytes of characters.
* `CodeCatalog.Text.dropBytes`, `CodeCatalog.Text.takeBytes` — the text behind and before an
  offset.
* `CodeCatalog.Text.between` — the text between two offsets.
-/

namespace CodeCatalog

/-! ## Positions -/

/-- A position in a text. -/
structure Position where
  /-- The number of characters before it. -/
  offset : Nat := 0
  /-- The number of bytes before it. -/
  byte : Nat := 0
  /-- The number of line feeds before it. -/
  row : Nat := 0
  /-- The number of bytes between the last line feed and it. -/
  column : Nat := 0
deriving Repr, BEq, DecidableEq, Inhabited

/-- The position behind the character `c` that stands at `p`. -/
def Position.after (p : Position) (c : Char) : Position :=
  if c == '\n' then ⟨p.offset + 1, p.byte + c.utf8Size, p.row + 1, 0⟩
  else ⟨p.offset + 1, p.byte + c.utf8Size, p.row, p.column + c.utf8Size⟩

/-- The position behind the character that stands at `p` in the text, or `p` at its end. -/
def Position.advance (p : Position) (text : Array Char) : Position :=
  match text[p.offset]? with
  | some c => p.after c
  | none => p

/-! ## Stretches -/

namespace Text

/-- The number of bytes of characters. -/
def byteSize : List Char → Nat
  | [] => 0
  | c :: cs => c.utf8Size + byteSize cs

/-- The characters from byte offset `n` on. -/
def dropBytes : Nat → List Char → List Char
  | 0, cs => cs
  | _, [] => []
  | n + 1, c :: cs => dropBytes (n + 1 - c.utf8Size) cs

/-- The characters before byte offset `n`. -/
def takeBytes : Nat → List Char → List Char
  | 0, _ => []
  | _, [] => []
  | n + 1, c :: cs => c :: takeBytes (n + 1 - c.utf8Size) cs

/-- The text between two byte offsets. -/
def between (s : List Char) (start stop : Nat) : String :=
  String.ofList (takeBytes (stop - start) (dropBytes start s))

end Text

end CodeCatalog
