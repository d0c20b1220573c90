import Std.Data.HashMap
import CodeCatalog.Catalog.Basic

/-!
# Documents

Collections hold documents: a text with an id and flat data about it. A record becomes a document
by joining its lists with commas and leaving out what it does not have. A collection in memory has
its documents in a list, with an index by id.

## Main definitions

* `CodeCatalog.Document` — a document.
* `CodeCatalog.Record.toDocument` — the document of a record.
* `CodeCatalog.Document.read` — reading a document.
* `CodeCatalog.MemoryCollection` — documents in the order in which they were added, and an index
  by id.
-/

namespace CodeCatalog

open Json

/-- A text with an id and data about it. -/
structure Document where
  id : String
  text : String
  /-- The data, in the order of keys. -/
  metadata : List (String × Value)
deriving Repr, BEq, Inhabited

/-! ## Documents of records -/

/-- Texts joined by commas. -/
def commaJoined (xs : List String) : String := ",".intercalate xs

/-- The data of a record, in no particular order. -/
def Record.facts (r : Record) : List (String × Value) :=
  let u := r.unit
  [("identity", natValue r.identity), ("unit_type", .string u.kind.label),
    ("name", .string u.name), ("decorators", .string (commaJoined u.decorators))] ++
  (match u.parameters with
    | some ps => [("parameters", .string (commaJoined ps))]
    | none => []) ++
  (match u.baseTypes with
    | some bs => [("base_types", .string (commaJoined bs))]
    | none => []) ++
  [("file_path", .string u.filePath), ("start_line", natValue u.startLine),
    ("end_line", natValue u.endLine), ("start_col", natValue u.startCol)] ++
  (match u.endCol with
    | some n => [("end_col", natValue n)]
    | none => []) ++
  [("token_count", natValue r.tokenCount)]

/-- The document of a record. -/
def Record.toDocument (r : Record) : Document where
  id := toString r.identity
  text := r.unit.sourceText
  metadata := r.facts.foldl (fun ms m => insertMember m.1 m.2 ms) []

/-- The documents of a catalog. -/
def Catalog.documents (c : Catalog) : List Document := c.records.map Record.toDocument

/-! ## The format of documents -/

/-- A document as data. -/
def Document.toValue (d : Document) : Value :=
  .object [("id", .string d.id), ("document", .string d.text), ("metadata", .object d.metadata)]

/-- A document as a line of text. -/
def Document.line (d : Document) : String := d.toValue.text false

/-- Reads data about a document in which arrays and objects are nested at most so deep. -/
def readMetadata (depth : Nat) : Reader (List (String × Value)) := beginValue fun x c =>
  if x = '\x7b' then
    objectWith (fun ms key c => (behindColon (value (depth - 1)) c).map fun r =>
      (insertMember key r.1.sorted ms, r.2)) [] .ok c
  else refuse "a map" c

/-- A document while it is read. -/
structure DocumentFields where
  id : Option String := none
  text : Option String := none
  metadata : Option (List (String × Value)) := none
deriving Repr, BEq, Inhabited

/-- Reads a field of a document, behind its key; unknown ones are skipped. -/
def DocumentFields.take (depth : Nat) (f : DocumentFields) (key : String) :
    Reader DocumentFields := fun c =>
  if key = "id" then
    if f.id.isSome then failLater (duplicateField key) c
    else (behindColon Json.text c).map fun r => ({ f with id := some r.1 }, r.2)
  else if key = "document" then
    if f.text.isSome then failLater (duplicateField key) c
    else (behindColon Json.text c).map fun r => ({ f with text := some r.1 }, r.2)
  else if key = "metadata" then
    if f.metadata.isSome then failLater (duplicateField key) c
    else (behindColon (readMetadata depth) c).map fun r => ({ f with metadata := some r.1 }, r.2)
  else (behindColon skipValue c).map fun r => (f, r.2)

/-- The document of fields. -/
def DocumentFields.finish (f : DocumentFields) : Except String Document := do
  let id ← required "id" f.id
  let text ← required "document" f.text
  let metadata ← required "metadata" f.metadata
  return { id, text, metadata }

/-- Reads the next item of an array that stands for a document. -/
def documentItem (count : Nat) (item : Reader α) : Reader α := fun c =>
  match nextItem (count == 0) c with
  | .error f => .error f
  | .ok (true, c) => item c
  | .ok (false, c) =>
    failLater s!"invalid length {count}, expected struct IndexDocument with 3 elements" c

/-- Reads the items of an array that stands for a document. -/
def documentItems (depth : Nat) : Reader Document := fun c =>
  match documentItem 0 Json.text c with
  | .error f => .error f
  | .ok (id, c) =>
    match documentItem 1 Json.text c with
    | .error f => .error f
    | .ok (text, c) =>
      match documentItem 2 (readMetadata depth) c with
      | .error f => .error f
      | .ok (metadata, c) => .ok ({ id, text, metadata }, c)

/-- Reads a document: an object with its fields, or an array of them in order. -/
def Document.read : Reader Document := beginValue fun x c =>
  if x = '\x7b' then
    objectWith (DocumentFields.take (maxDepth - 1)) {} DocumentFields.finish c
  else if x = '[' then closing closeArray (documentItems (maxDepth - 1) c.advance)
  else refuse "struct IndexDocument" c

/-! ## Collections in memory -/

/-- A document whose id is taken already. -/
def idExists (id : String) : SinkError := .recordAddFailure id "id already exists in collection"

/-- Documents in the order in which they were added, and where the one with an id is. -/
structure MemoryCollection where
  documents : Array Document := #[]
  positions : Std.HashMap String Nat := {}

namespace MemoryCollection

/-- The number of documents. -/
def size (c : MemoryCollection) : Nat := c.documents.size

/-- The document with an id. -/
def get? (c : MemoryCollection) (id : String) : Option Document :=
  match c.positions[id]? with
  | some i => c.documents[i]?
  | none => none

/-- Adds a document, unless its id is taken. -/
def add (c : MemoryCollection) (d : Document) : Except SinkError MemoryCollection :=
  if c.positions.contains d.id then .error (idExists d.id)
  else .ok ⟨c.documents.push d, c.positions.insert d.id c.documents.size⟩

end MemoryCollection

end CodeCatalog
