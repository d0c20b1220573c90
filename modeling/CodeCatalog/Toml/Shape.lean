import CodeCatalog.Toml.Excerpt
import CodeCatalog.Toml.Table

/-!
# Values of a known shape

Settings are taken from a table by giving each key a type. A value of another type is refused,
and so is the first such value in a table. Keys that nobody knows are passed over. A group of
settings may also be an array, with the settings in a fixed order.

## Main definitions

* `CodeCatalog.Toml.Item.asText`, `asBoolean`, `asTexts`, `asChoice` — values of a type.
* `CodeCatalog.Toml.Setting` — a setting of a group.
* `CodeCatalog.Toml.Item.asGroup` — a group of settings.
-/

namespace CodeCatalog.Toml

/-- A value that is refused: where it stands, if that is known, and why. -/
structure Mismatch where
  span : Option Span
  reason : String
deriving Repr, BEq, DecidableEq, Inhabited

/-- A value of another type than expected. -/
def Item.refuse (item : Item) (expected : String) : Except Mismatch α :=
  .error ⟨item.span?, s!"invalid type: {item.describe}, expected {expected}"⟩

/-! ## Single values -/

/-- A text; `expected` is what messages call it. -/
def Item.asText (expected : String) : Item → Except Mismatch String
  | .text _ s => .ok s
  | item => item.refuse expected

/-- A truth value. -/
def Item.asBoolean : Item → Except Mismatch Bool
  | .boolean _ b => .ok b
  | item => item.refuse "a boolean"

/-- Texts, one after the other. -/
def textsOf : List Item → Except Mismatch (List String)
  | [] => .ok []
  | item :: items =>
    match item.asText "a string" with
    | .error m => .error m
    | .ok s => (textsOf items).map (s :: ·)

/-- Several tables as values. -/
def elementItems (elements : List (TableForm × List (Key × Item))) : List Item :=
  elements.map fun e => .table e.1 e.2

/-- An array of texts. -/
def Item.asTexts : Item → Except Mismatch (List String)
  | .array _ items => textsOf items
  | .tables elements => textsOf (elementItems elements)
  | item => item.refuse "a sequence"

/-! ## Choices -/

/-- The name of a kind of values. -/
def Item.kind : Item → String
  | .text _ _ => "string"
  | .integer _ _ => "integer"
  | .float _ _ => "float"
  | .boolean _ _ => "boolean"
  | .moment _ => "datetime"
  | .array _ _ => "array"
  | .table form _ => if form.inBraces then "inline table" else "table"
  | .tables _ => "array of tables"

/-- The choice with a name. -/
def choose (choices : List (String × α)) (span : Option Span) (name : String) :
    Except Mismatch α :=
  match choices.lookup name with
  | some a => .ok a
  | none =>
    let names := " or ".intercalate (choices.map fun c => s!"`{c.1}`")
    .error ⟨span, s!"unknown variant `{name}`, expected {names}"⟩

/-- Nothing: what may stand behind the name of a choice. -/
def Item.asNothing : Item → Except Mismatch Unit
  | .table form entries =>
    if entries.isEmpty then .ok () else .error ⟨form.span, "expected empty table"⟩
  | .array span items =>
    if items.isEmpty then .ok () else .error ⟨some span, "expected empty table"⟩
  | .tables elements =>
    if elements.isEmpty then .ok () else .error ⟨spanOfTables elements, "expected empty array"⟩
  | item => .error ⟨item.span?, s!"expected table, found {item.kind}"⟩

/-- One of several choices: its name, or a table with the name as its only key and nothing behind
it. -/
def Item.asChoice (choices : List (String × α)) : Item → Except Mismatch α
  | .text span s => choose choices (some span) s
  | .table _ [(key, item)] =>
    match choose choices (some key.span) key.name with
    | .error m => .error m
    | .ok a => item.asNothing.map fun () => a
  | .table form [] => .error ⟨form.span, "wanted exactly 1 element, found 0 elements"⟩
  | .table form _ => .error ⟨form.span, "wanted exactly 1 element, more than 1 element"⟩
  | item => .error ⟨item.span?, "wanted string or table"⟩

/-! ## Groups -/

/-- A setting of a group of settings. -/
structure Setting (σ : Type) where
  name : String
  set : σ → Item → Except Mismatch σ

/-- Sets the settings that a table has entries for, in the order of the entries. A value that does
not stand anywhere itself is shown at its key. -/
def setByName (settings : List (Setting σ)) : σ → List (Key × Item) → Except Mismatch σ
  | s, [] => .ok s
  | s, (key, item) :: entries =>
    match settings.find? (·.name == key.name) with
    | none => setByName settings s entries
    | some setting =>
      match setting.set s item with
      | .ok s => setByName settings s entries
      | .error m => .error { m with span := m.span.or (item.span?.or (some key.span)) }

/-- Sets the settings in order, as far as there are values. -/
def setByPlace : List (Setting σ) → σ → List Item → Except Mismatch σ
  | setting :: settings, s, item :: items =>
    match setting.set s item with
    | .ok s => setByPlace settings s items
    | .error m => .error m
  | _, s, _ => .ok s

/-- A group of settings; `expected` is what messages call it. A date has no entries. -/
def Item.asGroup (expected : String) (settings : List (Setting σ)) (start : σ) :
    Item → Except Mismatch σ
  | .table _ entries => setByName settings start entries
  | .array _ items => setByPlace settings start items
  | .tables elements => setByPlace settings start (elementItems elements)
  | .moment _ => .ok start
  | item => item.refuse expected

end CodeCatalog.Toml
