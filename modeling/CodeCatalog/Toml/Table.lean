import CodeCatalog.Toml.Reading
import CodeCatalog.Number.Binary64
import CodeCatalog.Text.Quoted

/-!
# Tables of settings

A settings file is a table of keys with values, and values may be tables themselves. A table may
be written in braces, below a header, or by keys with dots; a table on the way to another one
need not be written at all. No key may be given twice, and no table may be written in two ways.

## Main definitions

* `CodeCatalog.Toml.Item` — a value.
* `CodeCatalog.Toml.Table` — a table, with its entries in the order in which they were written.
* `CodeCatalog.Toml.Table.alter` — a change at the end of a path of keys.
* `CodeCatalog.Toml.Table.insert` — a new entry.
* `CodeCatalog.Toml.Draft` — a settings file while it is read.
-/

namespace CodeCatalog.Toml

/-! ## Values -/

/-- A key and where it stands. -/
structure Key where
  name : String
  span : Span
deriving Repr, BEq, DecidableEq, Inhabited

/-- A key with the keys that lead to its table. -/
structure KeyPath where
  path : List Key
  last : Key
deriving Repr, BEq, DecidableEq, Inhabited

/-- How a table is written. -/
structure TableForm where
  /-- Where it stands, if it is written at all. -/
  span : Option Span
  /-- Whether it is written in braces. -/
  inBraces : Bool
  /-- Whether it only stands on the way to other tables. -/
  implicit : Bool
  /-- Whether it stems from a key with dots. -/
  dotted : Bool
deriving Repr, BEq, DecidableEq, Inhabited

/-- A value, with the part of the text where it stands. -/
inductive Item where
  | text (span : Span) (s : String)
  | integer (span : Span) (n : Int)
  | float (span : Span) (bits : UInt64)
  | boolean (span : Span) (b : Bool)
  /-- A date or a time. -/
  | moment (span : Span)
  | array (span : Span) (items : List Item)
  | table (form : TableForm) (entries : List (Key × Item))
  /-- Tables below headers of the same name. -/
  | tables (elements : List (TableForm × List (Key × Item)))
deriving Repr, Inhabited

/-- A table. -/
structure Table where
  form : TableForm
  entries : List (Key × Item)
deriving Repr, Inhabited

/-- A table as a value. -/
def Table.toItem (t : Table) : Item := .table t.form t.entries

/-- The span from the first to the last of several tables. -/
def spanOfTables (elements : List (TableForm × List (Key × Item))) : Option Span :=
  match (elements.head?.bind (·.1.span)), (elements.getLast?.bind (·.1.span)) with
  | some first, some last => some ⟨first.start, last.stop⟩
  | _, _ => none

/-- Where a value stands. -/
def Item.span? : Item → Option Span
  | .text span _ => some span
  | .integer span _ => some span
  | .float span _ => some span
  | .boolean span _ => some span
  | .moment span => some span
  | .array span _ => some span
  | .table form _ => form.span
  | .tables elements => spanOfTables elements

/-- What a value is called in messages. -/
def Item.describe : Item → String
  | .text _ s => s!"string {Text.quoted s}"
  | .integer _ n => s!"integer `{n}`"
  | .float _ bits => s!"floating point `{Binary64.positional bits}`"
  | .boolean _ b => s!"boolean `{b}`"
  | .moment _ => "map"
  | .array _ _ => "sequence"
  | .table _ _ => "map"
  | .tables _ => "sequence"

/-! ## Entries -/

namespace Table

/-- The value of a key. -/
def get? (t : Table) (name : String) : Option Item :=
  (t.entries.find? (·.1.name == name)).map (·.2)

/-- The table with one more entry. -/
def push (t : Table) (key : Key) (item : Item) : Table :=
  { t with entries := t.entries ++ [(key, item)] }

/-- The table with another value for a key. -/
def replace (t : Table) (name : String) (item : Item) : Table :=
  { t with entries := t.entries.map fun e => if e.1.name == name then (e.1, item) else e }

/-- The table without a key. -/
def erase (t : Table) (name : String) : Table :=
  { t with entries := t.entries.filter (·.1.name != name) }

/-- A table on the way to another one. -/
def onTheWay (inBraces dotted : Bool) : Table := ⟨⟨none, inBraces, true, dotted⟩, []⟩

/-- Changes the table at the end of a path, and tells something about it. Missing tables are
created on the way. Tables in braces cannot be entered from outside, and keys with dots cannot
enter tables that are written otherwise. -/
def alter (inBraces dotted : Bool) (change : Table → Option (Table × β)) :
    List Key → Table → Option (Table × β)
  | [], t => change t
  | key :: path, t =>
    match t.get? key.name with
    | none =>
      match alter inBraces dotted change path (onTheWay inBraces dotted) with
      | some (child, b) => some (t.push key child.toItem, b)
      | none => none
    | some (.table form entries) =>
      if form.inBraces != inBraces || (dotted && !form.implicit) then none
      else
        match alter inBraces dotted change path ⟨form, entries⟩ with
        | some (child, b) => some (t.replace key.name child.toItem, b)
        | none => none
    | some (.tables elements) =>
      match elements.getLast? with
      | none => none
      | some (form, entries) =>
        match alter inBraces dotted change path ⟨form, entries⟩ with
        | some (child, b) =>
          let elements := elements.dropLast ++ [(child.form, child.entries)]
          some (t.replace key.name (.tables elements), b)
        | none => none
    | some _ => none

/-- The table with one more entry, unless the key is taken or the table is not written by a key
with dots although it is entered by one, or the other way round. -/
def pushNew (entered : Bool) (key : Key) (item : Item) (t : Table) : Option (Table × Unit) :=
  if t.form.dotted != entered || (t.get? key.name).isSome then none
  else some (t.push key item, ())

/-- The table with a new entry at the end of a path of keys. -/
def insert (inBraces : Bool) (k : KeyPath) (item : Item) (t : Table) : Option Table :=
  (alter inBraces true (pushNew (!k.path.isEmpty) k.last item) k.path t).map (·.1)

/-- The table in braces with entries. -/
def ofEntries : Table → List (KeyPath × Item) → Option Table
  | t, [] => some t
  | t, (k, item) :: rest =>
    match t.insert true k item with
    | some t => ofEntries t rest
    | none => none

end Table

/-! ## Files while they are read -/

/-- A settings file while it is read: what is finished, and the table under way. -/
structure Draft where
  root : Table
  current : Table
  /-- The header of the table under way, unless it is the root table. -/
  header : Option KeyPath
  /-- Whether the table under way is one of several of the same name. -/
  isElement : Bool
deriving Repr, Inhabited

namespace Draft

/-- A table that is written out, outside of braces. -/
def written (span : Span) (entries : List (Key × Item)) : Table :=
  ⟨⟨some span, false, false, false⟩, entries⟩

/-- The begin of a file. -/
def start : Draft := ⟨written ⟨0, 0⟩ [], written ⟨0, 0⟩ [], none, false⟩

/-- Puts an entry into the table under way, which then reaches up to the end of its value. -/
def addEntry (d : Draft) (k : KeyPath) (item : Item) : Option Draft :=
  let span := match d.current.form.span, item.span? with
    | some table, some value => some ⟨table.start, value.stop⟩
    | span, _ => span
  let current : Table := { d.current with form := { d.current.form with span } }
  (current.insert false k item).map fun current => { d with current }

/-- Adds a table to several of the same name. -/
def pushElement (key : Key) (element : Table) (t : Table) : Option (Table × Unit) :=
  match t.get? key.name with
  | none => some (t.push key (.tables [(element.form, element.entries)]), ())
  | some (.tables elements) =>
    some (t.replace key.name (.tables (elements ++ [(element.form, element.entries)])), ())
  | some _ => none

/-- Puts a finished table into the one it belongs to. -/
def pushTable (key : Key) (table : Table) (t : Table) : Option (Table × Unit) :=
  match t.get? key.name with
  | none => some (t.push key table.toItem, ())
  | some (.table form _) =>
    if form.implicit then some (t.replace key.name table.toItem, ()) else none
  | some _ => none

/-- The root table, with the table under way in its place. -/
def finish (d : Draft) : Option Table :=
  match d.header with
  | none => some d.current
  | some k =>
    let push := if d.isElement then pushElement k.last d.current else pushTable k.last d.current
    (d.root.alter false false push k.path).map (·.1)

/-- Takes the table of a key out of a table. Only one that stood on the way to others may have
been there. -/
def takeTable (key : Key) (t : Table) : Option (Table × List (Key × Item)) :=
  match t.get? key.name with
  | none => some (t, [])
  | some (.table form entries) =>
    if form.implicit && !form.dotted then some (t.erase key.name, entries) else none
  | some _ => none

/-- Makes room for one more table of the same name. -/
def openElements (key : Key) (t : Table) : Option (Table × List (Key × Item)) :=
  match t.get? key.name with
  | none => some (t.push key (.tables []), [])
  | some (.tables _) => some (t, [])
  | some _ => none

/-- Begins the table of a header. -/
def begin (d : Draft) (isElement : Bool) (k : KeyPath) (span : Span) : Option Draft :=
  match d.finish with
  | none => none
  | some root =>
    let take := if isElement then openElements k.last else takeTable k.last
    match root.alter false false take k.path with
    | some (root, entries) => some ⟨root, written span entries, some k, isElement⟩
    | none => none

end Draft

end CodeCatalog.Toml
