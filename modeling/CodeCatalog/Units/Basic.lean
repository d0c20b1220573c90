/-!
# Code units

A unit is a function, a class or a variable found in a source file. A record is a unit with
its number in a catalog and the number of tokens of its text.

## Main definitions

* `CodeCatalog.CodeUnit` — a unit.
* `CodeCatalog.Record` — an entry of a catalog.
-/

namespace CodeCatalog

/-- What a unit is. -/
inductive UnitKind where
  | function
  | classDef
  | variable
deriving Repr, BEq, DecidableEq, Inhabited

/-- The name of a kind of unit. -/
def UnitKind.label : UnitKind → String
  | .function => "function"
  | .classDef => "class"
  | .variable => "variable"

/-- A function, class or variable of a source file. -/
structure CodeUnit where
  kind : UnitKind
  name : String
  /-- The decorators that are plain names, in source order. -/
  decorators : List String := []
  /-- The names of the positional parameters; for functions only. -/
  parameters : Option (List String) := none
  /-- The base classes that are plain names; for classes only. -/
  baseTypes : Option (List String) := none
  /-- The lines of the unit as one block, without the blanks at its ends. -/
  sourceText : String
  /-- The path of the file, as it was found. -/
  filePath : String
  /-- The first line, counted from 1. -/
  startLine : Nat
  /-- The last line, counted from 1. -/
  endLine : Nat
  /-- The bytes before the unit on its first line. -/
  startCol : Nat
  /-- The bytes before the end of the unit on its last line, when the end is known. -/
  endCol : Option Nat
deriving Repr, BEq, DecidableEq, Inhabited

/-- An entry of a catalog. -/
structure Record where
  identity : Nat
  unit : CodeUnit
  tokenCount : Nat
deriving Repr, BEq, DecidableEq, Inhabited

/-- Where the unit of a record stands: the file, the first and the last line. -/
def Record.location (r : Record) : String :=
  s!"{r.unit.filePath}:{r.unit.startLine}-{r.unit.endLine}"

end CodeCatalog
