/-!
# Writing settings files

A text is written in the first of several forms that suits it: in double quotes if nothing has
to be escaped, in single quotes, over several lines in double quotes, over several lines in single
quotes, and otherwise with escapes.

## Main definitions

* `CodeCatalog.Toml.TextForm`, `chooseForm` — the forms of a text, and which one suits it.
* `CodeCatalog.Toml.writeText` — a text in quotes.
* `CodeCatalog.Toml.writeTexts` — an array of texts.
-/

namespace CodeCatalog.Toml

/-! ## Forms of texts -/

/-- How a text is written. -/
inductive TextForm where
  | basic
  | literal
  | basicBlock
  | literalBlock
deriving Repr, BEq, DecidableEq, Inhabited

/-- Whether a character can only be written by a number or a letter behind a backslash. -/
def isControl (x : Char) : Bool := (x.toNat < 0x20 && x != '\t' && x != '\n') || x.toNat == 0x7F

/-- The longest run of a character; `run` is the length of the one under way. -/
def longestRun (quote : Char) (run : Nat) : List Char → Nat
  | [] => run
  | x :: xs =>
    if x = quote then longestRun quote (run + 1) xs else max run (longestRun quote 0 xs)

/-- The form that suits a text. -/
def chooseForm (text : List Char) : TextForm :=
  let controls := text.any isControl
  let backslash := text.contains '\\'
  let lines := text.contains '\n'
  let doubles := longestRun '"' 0 text
  let singles := longestRun '\x27' 0 text
  if !controls && !backslash && doubles == 0 && !lines then .basic
  else if !controls && singles == 0 && !lines then .literal
  else if !controls && !backslash && doubles ≤ 2 then .basicBlock
  else if !controls && singles ≤ 2 then .literalBlock
  else if lines then .basicBlock
  else .basic

/-! ## Escapes -/

/-- A hexadecimal digit. -/
def hexDigit (n : Nat) : Char := if n < 10 then Char.ofNat (48 + n) else Char.ofNat (55 + n)

/-- A character that has to be escaped. -/
def escapeChar (x : Char) : List Char :=
  if x.toNat = 8 then ['\\', 'b']
  else if x = '\t' then ['\\', 't']
  else if x = '\n' then ['\\', 'n']
  else if x.toNat = 12 then ['\\', 'f']
  else if x = '\r' then ['\\', 'r']
  else if x = '"' then ['\\', '"']
  else if x = '\\' then ['\\', '\\']
  else ['\\', 'u', '0', '0', hexDigit (x.toNat / 16), hexDigit (x.toNat % 16)]

/-- The characters of a text between double quotes. Lines may end and up to `quotes` double quotes
in a row may stand as they are, of which `run` have been written. -/
def writeBasic (lines : Bool) (quotes run : Nat) : List Char → List Char
  | [] => []
  | x :: xs =>
    if x = '"' ∧ run < quotes then x :: writeBasic lines quotes (run + 1) xs
    else if x = '"' ∨ x = '\\' ∨ x = '\t' ∨ isControl x ∨ (x = '\n' ∧ !lines) then
      escapeChar x ++ writeBasic lines quotes 0 xs
    else x :: writeBasic lines quotes 0 xs

/-- The end of a line right behind the first quotes of a text that runs over several lines. -/
def firstLine (text : List Char) : List Char := if text.contains '\n' then ['\n'] else []

/-- A text in a form. -/
def TextForm.write (form : TextForm) (text : List Char) : List Char :=
  match form with
  | .basic => '"' :: (writeBasic false 0 0 text ++ ['"'])
  | .literal => '\x27' :: (text ++ ['\x27'])
  | .basicBlock =>
    ['"', '"', '"'] ++ firstLine text ++ writeBasic true 2 0 text ++ ['"', '"', '"']
  | .literalBlock =>
    ['\x27', '\x27', '\x27'] ++ firstLine text ++ text ++ ['\x27', '\x27', '\x27']

/-- A text in quotes. -/
def writeText (s : String) : String := String.ofList ((chooseForm s.toList).write s.toList)

/-! ## Entries -/

/-- A truth value. -/
def writeBoolean (b : Bool) : String := if b then "true" else "false"

/-- An array of texts; more than one stand on lines of their own. -/
def writeTexts : List String → String
  | [] => "[]"
  | [s] => s!"[{writeText s}]"
  | ss => "[" ++ String.join (ss.map fun s => s!"\n    {writeText s},") ++ "\n]"

/-- An entry on a line of its own. -/
def writeEntry (key value : String) : String := s!"{key} = {value}\n"

/-- A table below its header. -/
def writeTable (name : String) (entries : List String) : String :=
  s!"[{name}]\n{String.join entries}"

end CodeCatalog.Toml
