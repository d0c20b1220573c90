import CodeCatalog.Catalog.Format
import CodeCatalog.Error
import CodeCatalog.Files.System

/-!
# Catalogs

A catalog is a list of records. It is written to a file and read back from it.

## Main definitions

* `CodeCatalog.Catalog` — a list of records.
* `CodeCatalog.Catalog.get?` — the record with a number.
* `CodeCatalog.Catalog.toJson`, `ofJson` — the text of a catalog, and the catalog of a text.
* `CodeCatalog.Catalog.writeTo`, `readFrom` — the same with files.
-/

namespace CodeCatalog

/-- A list of records. -/
structure Catalog where
  records : List Record
deriving Repr, BEq, DecidableEq, Inhabited

namespace Catalog

/-- The number of records. -/
def size (c : Catalog) : Nat := c.records.length

/-- The record with a number. In a catalog as it is built the number of a record is its place,
so that place is tried first. -/
def get? (c : Catalog) (identity : Nat) : Option Record :=
  match c.records[identity]? with
  | some r => if r.identity = identity then some r else search identity
  | none => search identity
where
  /-- The first record with a number. -/
  search (identity : Nat) : Option Record := c.records.find? (·.identity == identity)

/-- The text of a catalog. -/
def toJson (c : Catalog) (pretty : Bool) : String :=
  (Json.Value.array (c.records.map Record.toValue)).text pretty

/-- The catalog of a text. -/
def ofJson (text : String) : Except Json.Failure Catalog :=
  (Json.readAll readRecords text).map (⟨·⟩)

/-- Writes a catalog to a file, and creates the directories above it. -/
def writeTo (fs : FileSystem) (c : Catalog) (path : String) (pretty : Bool) :
    FileSystem × Except Error Unit :=
  let failed (e : OsError) : Except Error Unit :=
    .error (.catalogIo (.writeFailed path e.message))
  match fs.createParents path with
  | (fs, .error e) => (fs, failed e)
  | (fs, .ok ()) =>
    match fs.write path (c.toJson pretty).toUTF8 with
    | .error e => (fs, failed e)
    | .ok fs => (fs, .ok ())

/-- Reads a catalog from a file. -/
def readFrom (fs : FileSystem) (path : String) : Except Error Catalog :=
  match fs.readText path with
  | .error fault => .error (.catalogIo (.readFailed path fault.message))
  | .ok text =>
    match ofJson text with
    | .error f => .error (.catalogIo (.readFailed path f.message))
    | .ok c => .ok c

end Catalog

end CodeCatalog
