import CodeCatalog.Json.Printer
import CodeCatalog.Json.Reader
import CodeCatalog.Units.Basic

/-!
# The format of catalogs

A catalog is written as an array of objects, one for each record. On reading, the number and the
token count of a record are checked where they stand; the fields of its unit are collected and
checked at the end of the record. Fields that no record has are passed over.

## Main definitions

* `CodeCatalog.Record.toValue` — a record as data.
* `CodeCatalog.CodeUnit.ofMembers` — the unit of collected fields.
* `CodeCatalog.Record.read` — reading a record.
-/

namespace CodeCatalog

open Json

/-! ## Writing -/

/-- Texts as data. -/
def textsValue (xs : List String) : Value := .array (xs.map .string)

/-- A whole number as data. -/
def natValue (n : Nat) : Value := .number (.natural n)

/-- A whole number as data, or null. -/
def natOrNull : Option Nat → Value
  | some n => natValue n
  | none => .null

/-- A field of texts, left out if a unit does not have it. -/
def textsMember (key : String) : Option (List String) → List (String × Value)
  | some xs => [(key, textsValue xs)]
  | none => []

/-- The fields of a unit, in the order in which they are written. -/
def CodeUnit.toMembers (u : CodeUnit) : List (String × Value) :=
  [("unit_type", .string u.kind.label), ("name", .string u.name),
    ("decorators", textsValue u.decorators)] ++
  (textsMember "parameters" u.parameters ++ (textsMember "base_types" u.baseTypes ++
  [("source_text", .string u.sourceText), ("file_path", .string u.filePath),
    ("start_line", natValue u.startLine), ("end_line", natValue u.endLine),
    ("start_col", natValue u.startCol), ("end_col", natOrNull u.endCol)]))

/-- A record as data. -/
def Record.toValue (r : Record) : Value :=
  .object (("identity", natValue r.identity) :: r.unit.toMembers ++
    [("token_count", natValue r.tokenCount)])

/-! ## Fields of a unit -/

/-- A field that stands twice. -/
def duplicateField (key : String) : String := s!"duplicate field `{key}`"

/-- A field that is missing. -/
def missingField (key : String) : String := s!"missing field `{key}`"

/-- A value of another type than expected. -/
def mismatch (v : Value) (expected : String) : Except String α :=
  .error (invalidType v.describe expected)

/-- The text that a value is. -/
def textOf : Value → Except String String
  | .string s => .ok s
  | v => mismatch v "a string"

/-- The texts that values are. -/
def textsOfItems : List Value → Except String (List String)
  | [] => .ok []
  | v :: vs =>
    match textOf v with
    | .error e => .error e
    | .ok s => (textsOfItems vs).map (s :: ·)

/-- The texts that a value is. -/
def textsOf : Value → Except String (List String)
  | .array items => textsOfItems items
  | v => mismatch v "a sequence"

/-- The whole number that a value is. -/
def naturalOf : Value → Except String Nat
  | .number n => n.natural?
  | v => mismatch v naturalName

/-- Nothing, or what a value is. -/
def optionOf (read : Value → Except String α) : Value → Except String (Option α)
  | .null => .ok none
  | v => (read v).map some

/-- The kind of unit that a name stands for. -/
def UnitKind.ofLabel (label : String) : Except String UnitKind :=
  if label = UnitKind.label .function then .ok .function
  else if label = UnitKind.label .classDef then .ok .classDef
  else if label = UnitKind.label .variable then .ok .variable
  else .error s!"unknown variant `{label}`, expected one of `function`, `class`, `variable`"

/-- The kind of unit that a value is: its name, or an object with its name and nothing else. -/
def kindOf : Value → Except String UnitKind
  | .string label => UnitKind.ofLabel label
  | .object [(label, content)] =>
    match UnitKind.ofLabel label with
    | .error e => .error e
    | .ok kind =>
      match content with
      | .null => .ok kind
      | .object [] => .ok kind
      | v => mismatch v "unit"
  | .object _ => .error (invalidValue "map" "map with a single key")
  | v => mismatch v "string or map"

/-- The fields of a unit as far as they are known. -/
structure UnitFields where
  kind : Option UnitKind := none
  name : Option String := none
  decorators : Option (List String) := none
  parameters : Option (Option (List String)) := none
  baseTypes : Option (Option (List String)) := none
  sourceText : Option String := none
  filePath : Option String := none
  startLine : Option Nat := none
  endLine : Option Nat := none
  startCol : Option Nat := none
  endCol : Option (Option Nat) := none
deriving Repr, BEq, DecidableEq, Inhabited

/-- Sets a field that is not known yet. -/
def setOnce (key : String) (old : Option α) (read : Value → Except String α) (v : Value)
    (set : α → UnitFields) : Except String UnitFields :=
  if old.isSome then .error (duplicateField key) else (read v).map set

/-- Takes a field in; unknown ones are passed over. -/
def UnitFields.take (f : UnitFields) (key : String) (v : Value) : Except String UnitFields :=
  if key = "unit_type" then setOnce key f.kind kindOf v fun x => { f with kind := some x }
  else if key = "name" then setOnce key f.name textOf v fun x => { f with name := some x }
  else if key = "decorators" then
    setOnce key f.decorators textsOf v fun x => { f with decorators := some x }
  else if key = "parameters" then
    setOnce key f.parameters (optionOf textsOf) v fun x => { f with parameters := some x }
  else if key = "base_types" then
    setOnce key f.baseTypes (optionOf textsOf) v fun x => { f with baseTypes := some x }
  else if key = "source_text" then
    setOnce key f.sourceText textOf v fun x => { f with sourceText := some x }
  else if key = "file_path" then
    setOnce key f.filePath textOf v fun x => { f with filePath := some x }
  else if key = "start_line" then
    setOnce key f.startLine naturalOf v fun x => { f with startLine := some x }
  else if key = "end_line" then
    setOnce key f.endLine naturalOf v fun x => { f with endLine := some x }
  else if key = "start_col" then
    setOnce key f.startCol naturalOf v fun x => { f with startCol := some x }
  else if key = "end_col" then
    setOnce key f.endCol (optionOf naturalOf) v fun x => { f with endCol := some x }
  else .ok f

/-- Takes fields in, one after the other. -/
def UnitFields.takeAll : UnitFields → List (String × Value) → Except String UnitFields
  | f, [] => .ok f
  | f, (key, v) :: ms =>
    match f.take key v with
    | .error e => .error e
    | .ok f => f.takeAll ms

/-- A field that a unit must have. -/
def required (key : String) (field : Option α) : Except String α :=
  match field with
  | some a => .ok a
  | none => .error (missingField key)

/-- The unit of fields; the first that is missing is reported. -/
def UnitFields.finish (f : UnitFields) : Except String CodeUnit := do
  let kind ← required "unit_type" f.kind
  let name ← required "name" f.name
  let sourceText ← required "source_text" f.sourceText
  let filePath ← required "file_path" f.filePath
  let startLine ← required "start_line" f.startLine
  let endLine ← required "end_line" f.endLine
  let startCol ← required "start_col" f.startCol
  return {
    kind, name, sourceText, filePath, startLine, endLine, startCol
    decorators := f.decorators.getD []
    parameters := f.parameters.getD none
    baseTypes := f.baseTypes.getD none
    endCol := f.endCol.getD none }

/-- The unit of collected fields. -/
def CodeUnit.ofMembers (ms : List (String × Value)) : Except String CodeUnit :=
  match UnitFields.takeAll {} ms with
  | .error e => .error e
  | .ok f => f.finish

/-! ## Reading -/

/-- A record while it is read: its number, its token count, and the other fields in order. -/
structure RecordFields where
  identity : Option Nat := none
  tokenCount : Option Nat := none
  others : List (String × Value) := []
deriving Repr, BEq, Inhabited

/-- Reads a field of a record, behind its key. -/
def RecordFields.take (depth : Nat) (f : RecordFields) (key : String) : Reader RecordFields :=
  fun c =>
    if key = "identity" then
      if f.identity.isSome then failLater (duplicateField key) c
      else (behindColon natural c).map fun r => ({ f with identity := some r.1 }, r.2)
    else if key = "token_count" then
      if f.tokenCount.isSome then failLater (duplicateField key) c
      else (behindColon natural c).map fun r => ({ f with tokenCount := some r.1 }, r.2)
    else (behindColon (value depth) c).map fun r =>
      ({ f with others := f.others ++ [(key, r.1)] }, r.2)

/-- The record of fields. -/
def RecordFields.finish (f : RecordFields) : Except String Record := do
  let identity ← required "identity" f.identity
  let tokenCount ← required "token_count" f.tokenCount
  let unit ← CodeUnit.ofMembers f.others
  return { identity, unit, tokenCount }

/-- Reads a record in which arrays and objects are nested at most so deep. -/
def Record.read (depth : Nat) : Reader Record := beginValue fun x c =>
  if x = '\x7b' then objectWith (RecordFields.take (depth - 1)) {} RecordFields.finish c
  else refuse "struct CatalogRecord" c

/-- Reads the records of a catalog. -/
def readRecords : Reader (List Record) := beginValue fun x c =>
  if x = '[' then arrayOf (Record.read (maxDepth - 1)) c else refuse "a sequence" c

end CodeCatalog
