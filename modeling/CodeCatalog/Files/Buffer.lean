import CodeCatalog.Files.System

/-!
# Buffered writing

An open file is written at a place in it, or always at its end. Small pieces are collected in a
buffer of fixed size and written when it is full, when asked for, or when the file is closed.

## Main definitions

* `CodeCatalog.OpenFile` — an open file.
* `CodeCatalog.BufferedFile` — an open file with a buffer.
* `CodeCatalog.BufferedFile.writePiece`, `flush` — writing through the buffer.
-/

namespace CodeCatalog

/-- A file that is open for writing. -/
structure OpenFile where
  place : List String
  /-- The number of bytes before the next one to write. -/
  offset : Nat := 0
  /-- Whether writing is always at the end. -/
  appending : Bool := false
deriving Repr, BEq, DecidableEq, Inhabited

/-- Bytes with others written over them from an offset on; a gap before them is filled with
zeros. -/
def overwrite (content : List UInt8) (offset : Nat) (bytes : List UInt8) : List UInt8 :=
  content.take offset ++ List.replicate (offset - content.length) 0 ++ bytes ++
    content.drop (offset + bytes.length)

namespace OpenFile

/-- Writes bytes. -/
def write (fs : FileSystem) (file : OpenFile) (bytes : ByteArray) :
    Except OsError (FileSystem × OpenFile) :=
  if bytes.isEmpty then .ok (fs, file)
  else
    match fs.root.at? file.place with
    | some .fullDevice => .error .noSpace
    | some (.file content) =>
      let offset := if file.appending then content.size else file.offset
      let content := if offset = content.size then content ++ bytes
        else ⟨(overwrite content.toList offset bytes.toList).toArray⟩
      .ok (fs.put file.place (.file content), { file with offset := offset + bytes.size })
    | _ => .ok (fs, file)

end OpenFile

/-- An open file with the bytes that wait to be written. -/
structure BufferedFile where
  file : OpenFile
  pending : ByteArray := .empty

namespace BufferedFile

/-- The size of the buffer. -/
def capacity : Nat := 8192

/-- Writes what waits in the buffer; what cannot be written stays there. -/
def flush (fs : FileSystem) (b : BufferedFile) : (FileSystem × BufferedFile) × Option OsError :=
  match b.file.write fs b.pending with
  | .ok (fs, file) => ((fs, ⟨file, .empty⟩), none)
  | .error e => ((fs, b), some e)

/-- Writes a piece when the buffer has room for it or has been written: a piece as large as the
buffer goes to the file, any other into the buffer. -/
def place (fs : FileSystem) (b : BufferedFile) (piece : ByteArray) :
    (FileSystem × BufferedFile) × Option OsError :=
  if piece.size ≥ capacity then
    match b.file.write fs piece with
    | .ok (fs, file) => ((fs, { b with file }), none)
    | .error e => ((fs, b), some e)
  else ((fs, { b with pending := b.pending ++ piece }), none)

/-- Writes a piece through the buffer. -/
def writePiece (fs : FileSystem) (b : BufferedFile) (piece : ByteArray) :
    (FileSystem × BufferedFile) × Option OsError :=
  if piece.size ≤ capacity - b.pending.size then place fs b piece
  else
    match flush fs b with
    | (state, some e) => (state, some e)
    | ((fs, b), none) => place fs b piece

end BufferedFile

end CodeCatalog
