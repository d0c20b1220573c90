import CodeCatalog.Toml.Number
import CodeCatalog.Toml.Table

/-!
# Reading settings files

## Main definitions

* `CodeCatalog.Toml.key` — a key, with or without dots.
* `CodeCatalog.Toml.value` — a value.
* `CodeCatalog.Toml.readTable` — a whole file.
-/

namespace CodeCatalog.Toml

/-- Keys and values may be nested less deep than this. -/
def nestingLimit : Nat := 80

/-! ## Keys -/

/-- Characters of keys without quotes. -/
def isKeyChar (x : Char) : Bool := x.isAlphanum || x == '-' || x == '_'

/-- Reads a key without dots. -/
def simpleKey : Reader Key := fun c =>
  let name := match c.rest with
    | '"' :: _ => basicText
    | '\x27' :: _ => literalText
    | _ => someWhere isKeyChar
  (spanned name c).andThen fun (name, span) c => .done ⟨String.ofList name, span⟩ c

/-- Splits the parts of a key into a path and a last part. -/
def splitKey (keys : List Key) : Option KeyPath :=
  keys.getLast?.map fun last => ⟨keys.dropLast, last⟩

/-- Reads a key, and the blanks around its parts. -/
def key : Reader KeyPath :=
  checked
    (separatedOnce (symbol '.') do
      blanks
      let k ← simpleKey
      blanks
      return k)
    fun keys => if keys.length < nestingLimit then splitKey keys else none

/-! ## Values -/

/-- Reads an item of an array. -/
def arrayItem (value : Reader Item) : Reader Item := do
  betweenItems
  let v ← value
  betweenItems
  return v

/-- Reads the items of an array; a comma may follow the last one. -/
def arrayItems (value : Reader Item) : Reader (List Item) := fun c =>
  match c.rest with
  | ']' :: _ => .done [] c
  | _ =>
    (separatedMaybe (symbol ',') (arrayItem value) c).andThen fun items c =>
      let comma := if items.isEmpty then pure none else maybe (symbol ',')
      (comma c).andThen fun _ c => (betweenItems c).andThen fun _ c => .done items c

/-- Reads an array. -/
def array (value : Reader Item) : Reader (List Item) := do
  let _ ← symbol '['
  let items ← firm (arrayItems value)
  let _ ← firm (symbol ']')
  return items

/-- Reads an entry of a table: key, equals sign, value, and what follows it. -/
def entry (value : Reader Item) (trailing : Reader Unit) : Reader (KeyPath × Item) := do
  let k ← key
  let item ← firm do
    let _ ← symbol '='
    blanks
    let v ← value
    trailing
    return v
  return (k, item)

/-- Reads the entries of a table in braces. -/
def tableEntries (value : Reader Item) : Reader Table :=
  checked
    (do
      let entries ← separatedMaybe (symbol ',') (entry value blanks)
      blanks
      return entries)
    (Table.ofEntries ⟨⟨none, true, false, false⟩, []⟩)

/-- Reads a table in braces. -/
def bracedTable (value : Reader Item) : Reader Table := do
  let _ ← symbol '\x7b'
  let t ← firm (tableEntries value)
  let _ ← firm (symbol '\x7d')
  return t

/-- Puts something into a value together with its place. -/
def placed (r : Reader α) (item : Span → α → Item) : Reader Item := do
  let (a, span) ← spanned r
  return item span a

/-- Reads a number, a date or a time. -/
def numberOrMoment : Reader Item :=
  orElse (placed moment fun span _ => .moment span)
    (orElse (placed float .float) (placed integer .integer))

/-- Reads a value; `nested` reads values inside it, unless it may not have any. -/
def valueWith (nested : Option (Reader Item)) : Reader Item := fun c =>
  match c.rest with
  | [] => .miss c
  | x :: _ =>
    if x = '"' ∨ x = '\x27' then placed anyText (fun span s => .text span (String.ofList s)) c
    else if x = '[' then
      match nested with
      | none => .fail c
      | some value => placed (array value) .array c
    else if x = '\x7b' then
      match nested with
      | none => .fail c
      | some value =>
        placed (bracedTable value)
          (fun span t => .table { t.form with span := some span } t.entries) c
    else if x = '+' ∨ x = '-' ∨ x.isDigit then numberOrMoment c
    else if x = '_' then placed integer .integer c
    else if x = '.' then placed float .float c
    else if x = 't' then
      placed (firm (literal ['t', 'r', 'u', 'e'])) (fun span _ => .boolean span true) c
    else if x = 'f' then
      placed (firm (literal ['f', 'a', 'l', 's', 'e'])) (fun span _ => .boolean span false) c
    else if x = 'i' ∨ x = 'n' then placed floatName .float c
    else .miss c

/-- Reads a value in which arrays and tables are nested at most so deep. -/
def value : (depth : Nat) → Reader Item
  | 0 => valueWith none
  | depth + 1 => valueWith (some (value depth))

/-- Reads a value of a file. -/
def fileValue : Reader Item := value (nestingLimit - 1)

/-! ## Files -/

/-- Reads a header between brackets. -/
def header (opening closing : List Char) (isElement : Bool) (d : Draft) : Reader Draft :=
  checked
    (do
      let k ← spanned do
        let _ ← literal opening
        let k ← firm key
        let _ ← firm (literal closing)
        return k
      firm lineTrailing
      return k)
    fun (k, span) => d.begin isElement k span

/-- Reads an entry on a line of its own. -/
def fileEntry (d : Draft) : Reader Draft :=
  checked (entry fileValue lineTrailing) fun (k, item) => d.addEntry k item

/-- Reads a statement: a comment, a header, an empty line or an entry. -/
def statement (d : Draft) : Reader Draft := fun c =>
  match c.rest with
  | [] => .miss c
  | '#' :: _ => firm (comment >>= fun _ => lineEnd >>= fun _ => pure d) c
  | '[' :: '[' :: _ => firm (header ['[', '['] [']', ']'] true d) c
  | ['['] => .fail c
  | '[' :: _ => firm (header ['['] [']'] false d) c
  | '\n' :: _ | '\r' :: _ => (newline >>= fun _ => pure d) c
  | _ => firm (fileEntry d) c

/-- Reads at most `rounds` statements, as long as there are any. -/
def statementsWithin : (rounds : Nat) → Draft → Reader Draft
  | 0, d => fun c => .done d c
  | rounds + 1, d => fun c =>
    match statement d c with
    | .miss _ => .done d c
    | .fail place => .fail place
    | .done d c => (blanks c).andThen fun _ c => statementsWithin rounds d c

/-- Reads a file; a mark of the byte order may stand at its begin. -/
def file : Reader Draft := fun c =>
  (maybe (symbol '\uFEFF') c).andThen fun _ c =>
    (blanks c).andThen fun _ c =>
      (statementsWithin (c.rest.length + 1) .start c).andThen fun d c =>
        (atEnd c).andThen fun _ c => .done d c

/-- The root table of a text, or how many bytes stand before the place where it is malformed. -/
def readTable (text : String) : Except Nat Table :=
  match file (.ofText text) with
  | .done d c => match d.finish with
    | some t => .ok t
    | none => .error c.offset
  | .miss c => .error c.offset
  | .fail c => .error c.offset

end CodeCatalog.Toml
