import CodeCatalog.Files.System

/-!
# Snapshots

A snapshot is a part of a file system, put together from pieces. After work on a snapshot, what
has changed in it can be carried over to the file system itself.

## Main definitions

* `CodeCatalog.Entry.graft` — a snapshot with one more piece.
* `CodeCatalog.Entry.changes` — what is new or different in a later snapshot.
-/

namespace CodeCatalog

/-- Puts an entry at the end of a list of names; missing directories on the way are created. -/
def Entry.graft (tree : Entry) (names : List String) (new : Entry) : Entry :=
  match names with
  | [] => new
  | name :: names =>
    let entries := match tree with
      | .dir entries => entries
      | _ => []
    .dir (Entry.setName name (((entries.lookup name).getD (.dir [])).graft names new) entries)

/-- Something new: a directory, or a file with its content. -/
structure Change where
  place : List String
  content : Option ByteArray

mutual

/-- What is new or different in an entry. -/
def Entry.changes (place : List String) (old : Option Entry) : Entry → List Change
  | .dir entries =>
    match old with
    | some (.dir before) => Entry.changesBelow place before entries
    | _ => ⟨place, none⟩ :: Entry.changesBelow place [] entries
  | .file content =>
    match old with
    | some (.file before) => if before == content then [] else [⟨place, some content⟩]
    | _ => [⟨place, some content⟩]
  | _ => []

/-- What is new or different below a directory. -/
def Entry.changesBelow (place : List String) (old : List (String × Entry)) :
    List (String × Entry) → List Change
  | [] => []
  | (name, e) :: rest =>
    e.changes (place ++ [name]) (old.lookup name) ++ Entry.changesBelow place old rest

end

end CodeCatalog
