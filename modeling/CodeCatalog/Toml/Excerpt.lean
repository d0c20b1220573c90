import CodeCatalog.Toml.Reading

/-!
# Faults of settings files

A fault is shown with its line and column; if it concerns a part of a well-formed text, that
part is shown too, with a mark below it.

## Main definitions

* `CodeCatalog.Toml.place` — the line and the column of a place.
* `CodeCatalog.Toml.Fault.message` — the text of a fault.
-/

namespace CodeCatalog.Toml

/-! ## Lines and columns -/

/-- A line and a column, both from zero. -/
structure Place where
  line : Nat
  column : Nat
deriving Repr, BEq, DecidableEq, Inhabited

/-- The characters behind the last end of a line. -/
def lastLine (xs : List Char) : List Char := (xs.reverse.takeWhile (· != '\n')).reverse

/-- The line and the column of a place that some bytes stand before. Columns count characters,
but bytes in front of a character outside ASCII. The end of a text counts to the line of its
last character. -/
def place (text : List Char) (offset : Nat) : Place :=
  let before := Text.takeBytes offset text
  match text.drop before.length with
  | x :: _ =>
    let line := lastLine before
    ⟨before.count '\n', if x.toNat < 0x80 then line.length else Text.byteSize line⟩
  | [] =>
    if text.isEmpty then ⟨0, offset⟩
    else ⟨before.dropLast.count '\n', (lastLine before.dropLast).length + 1⟩

/-! ## Messages -/

/-- What is wrong with a settings file. -/
inductive Fault where
  /-- The text is malformed at a place. -/
  | malformed (offset : Nat)
  /-- A part of the text is well formed, but of no use. -/
  | unsuited (span : Option Span) (reason : String)
deriving Repr, BEq, DecidableEq, Inhabited

/-- The first line of a message. -/
def headline (p : Place) : String :=
  s!"TOML parse error at line {p.line + 1}, column {p.column + 1}"

/-- Copies of a character. -/
def copies (n : Nat) (x : Char) : String := String.ofList (List.replicate n x)

/-- The lines of a text. -/
def linesOf (text : List Char) : List (List Char) := go [] text
where
  /-- The lines of a text, the first of which has begun already. -/
  go (line : List Char) : List Char → List (List Char)
    | [] => [line.reverse]
    | x :: xs => if x = '\n' then line.reverse :: go [] xs else go (x :: line) xs

/-- The line of a part of a text, with a mark below the part as far as it is on that line. -/
def excerpt (text : List Char) (span : Span) : String :=
  let p := place text span.start
  let number := toString (p.line + 1)
  let content := (linesOf text).getD p.line []
  let width := max 1 (min (span.stop - span.start) (Text.byteSize content - p.column))
  let gutter := copies (number.length + 1) ' '
  let mark := copies (p.column + 1) ' ' ++ copies width '^'
  s!"{gutter}|\n{number} | {String.ofList content}\n{gutter}|{mark}"

/-- The text of a fault. -/
def Fault.message (text : String) : Fault → String
  | .malformed offset => headline (place text.toList offset)
  | .unsuited none reason => s!"{reason}\n"
  | .unsuited (some span) reason =>
    s!"{headline (place text.toList span.start)}\n{excerpt text.toList span}\n{reason}\n"

end CodeCatalog.Toml
