import CodeCatalog.Collection.Document
import CodeCatalog.Files.Buffer
import CodeCatalog.Text.Class
import CodeCatalog.Text.Lines

/-!
# Collections in files

A collection file has one document on every line. Documents are added at its end, through a
buffer; their ids stay reserved.

## Main definitions

* `CodeCatalog.LineCollection` — an open collection file.
* `CodeCatalog.LineCollection.readDocuments` — the documents of a file.
* `CodeCatalog.LineCollection.create`, `openExisting` — an empty file, or one with documents.
* `CodeCatalog.LineCollection.add`, `flush` — adding documents.
-/

namespace CodeCatalog

/-- An open collection file. -/
structure LineCollection where
  path : String
  file : BufferedFile
  /-- The ids of the documents in the file or in its buffer. -/
  ids : List String

namespace LineCollection

/-! ## Reading -/

/-- The documents on the lines of a file; `number` is the number of the first one. Blank lines
are passed over. -/
def documentsOf (number : Nat) : List (List UInt8) → Except String (List Document)
  | [] => .ok []
  | line :: lines =>
    match Text.lineText? line with
    | none => .error (ReadFault.message .notText)
    | some text =>
      if (Text.trim text).isEmpty then documentsOf (number + 1) lines
      else
        match Json.readAll Document.read text with
        | .error f => .error s!"line {number}: {f.message}"
        | .ok d => (documentsOf (number + 1) lines).map (d :: ·)

/-- The documents of a collection file. -/
def readDocuments (fs : FileSystem) (path : String) : Except Error (List Document) :=
  match fs.read path with
  | .error e => .error (.catalogIo (.readFailed path e.message))
  | .ok bytes =>
    match documentsOf 1 (Text.byteLines bytes) with
    | .error reason => .error (.catalogIo (.readFailed path reason))
    | .ok ds => .ok ds

/-! ## Opening -/

/-- A collection file that cannot be written. -/
def writeFailed (path : String) (e : OsError) : Except Error α :=
  .error (.catalogIo (.writeFailed path e.message))

/-- Starts an empty collection; a file that is there already is replaced. The directories above
it are created, and stay when the file itself cannot be opened. -/
def create (fs : FileSystem) (path : String) : FileSystem × Except Error LineCollection :=
  match fs.createParents path with
  | (fs, .error e) => (fs, writeFailed path e)
  | (fs, .ok ()) =>
    match fs.truncate path with
    | .error e => (fs, writeFailed path e)
    | .ok (fs, place) => (fs, .ok ⟨path, ⟨{ place }, .empty⟩, []⟩)

/-- The ids of the documents of a file, none if there is no file. -/
def existingIds (fs : FileSystem) (path : String) : Except Error (List String) :=
  if fs.exists? path then (readDocuments fs path).map fun ds => (ds.map (·.id)).eraseDups
  else .ok []

/-- Opens a collection for adding documents; the ids of those in the file stay reserved. -/
def openExisting (fs : FileSystem) (path : String) : FileSystem × Except Error LineCollection :=
  match existingIds fs path with
  | .error e => (fs, .error e)
  | .ok ids =>
    match fs.createParents path with
    | (fs, .error e) => (fs, writeFailed path e)
    | (fs, .ok ()) =>
      match fs.extend path with
      | .error e => (fs, writeFailed path e)
      | .ok (fs, place) => (fs, .ok ⟨path, ⟨{ place, appending := true }, .empty⟩, ids⟩)

/-! ## Adding -/

/-- The number of documents. -/
def size (c : LineCollection) : Nat := c.ids.length

/-- Writes a line through the buffer: its text, then its end. -/
def writeLine (fs : FileSystem) (b : BufferedFile) (line : String) :
    (FileSystem × BufferedFile) × Option OsError :=
  match b.writePiece fs line.toUTF8 with
  | (state, some e) => (state, some e)
  | ((fs, b), none) => b.writePiece fs "\n".toUTF8

/-- Adds a document, unless its id is taken. -/
def add (fs : FileSystem) (c : LineCollection) (d : Document) :
    (FileSystem × LineCollection) × Except SinkError Unit :=
  if c.ids.contains d.id then ((fs, c), .error (idExists d.id))
  else
    match writeLine fs c.file d.line with
    | ((fs, file), some e) => ((fs, { c with file }), .error (.recordAddFailure d.id e.message))
    | ((fs, file), none) => ((fs, { c with file, ids := c.ids ++ [d.id] }), .ok ())

/-- Writes the documents that wait in the buffer. -/
def flush (fs : FileSystem) (c : LineCollection) :
    (FileSystem × LineCollection) × Except SinkError Unit :=
  match c.file.flush fs with
  | ((fs, file), none) => ((fs, { c with file }), .ok ())
  | ((fs, file), some e) =>
    ((fs, { c with file }), .error (.flushFailed s!"{c.path}: {e.message}"))

/-- Closes the file; what waits in the buffer is written if it can be. -/
def close (fs : FileSystem) (c : LineCollection) : FileSystem := (c.file.flush fs).1.1

end LineCollection

end CodeCatalog
