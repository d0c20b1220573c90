import CodeCatalog.Number.Binary64
import CodeCatalog.Text.Quoted

/-!
# Data values

The values of the JSON data format. Whole numbers have 64 bits, with or without a sign; all other
numbers are floating-point numbers.

## Main definitions

* `CodeCatalog.Json.Value` — a value.
* `CodeCatalog.Json.Value.describe` — what a value is called in messages.
* `CodeCatalog.Json.insertMember` — a member of an object, kept in the order of keys.
-/

namespace CodeCatalog.Json

/-- A number. -/
inductive Number where
  | natural (n : Nat)
  /-- The negative of a number above zero. -/
  | negative (n : Nat)
  | float (bits : UInt64)
deriving Repr, BEq, DecidableEq, Inhabited

/-- A value. -/
inductive Value where
  | null
  | bool (b : Bool)
  | number (n : Number)
  | string (s : String)
  | array (items : List Value)
  | object (members : List (String × Value))
deriving Repr, BEq, Inhabited

/-- Whether a character is blank space between values. -/
def isBlank (x : Char) : Bool := x == ' ' || x == '\n' || x == '\t' || x == '\r'

/-- The greatest whole number. -/
def maxNatural : Nat := 18446744073709551615

/-- What a number is called in messages. -/
def Number.describe : Number → String
  | .natural n => s!"integer `{n}`"
  | .negative n => s!"integer `-{n}`"
  | .float bits => s!"floating point `{Binary64.scientific bits}`"

/-- What a value is called in messages. -/
def Value.describe : Value → String
  | .null => "null"
  | .bool b => s!"boolean `{b}`"
  | .number n => n.describe
  | .string s => s!"string {Text.quoted s}"
  | .array _ => "sequence"
  | .object _ => "map"

/-- Puts a member into an object whose keys are in order; a key that is there already gets the
new value. -/
def insertMember (key : String) (value : α) : List (String × α) → List (String × α)
  | [] => [(key, value)]
  | (k, v) :: rest =>
    if key < k then (key, value) :: (k, v) :: rest
    else if key = k then (k, value) :: rest
    else (k, v) :: insertMember key value rest

end CodeCatalog.Json
