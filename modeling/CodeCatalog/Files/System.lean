import CodeCatalog.Files.Path
import CodeCatalog.Text.Utf8

/-!
# File systems

A file system is a value: a tree of directories, files and links, and a current directory.
Paths are looked up component by component, through links; operations that change something
give a new file system.

## Main definitions

* `CodeCatalog.Entry` — what a name in a directory stands for.
* `CodeCatalog.FileSystem` — a tree with a current directory.
* `CodeCatalog.FileSystem.follow` — where a path leads.
* `CodeCatalog.FileSystem.read`, `write`, `createDirs`, `isFile`, `isDir` — the operations.
-/

namespace CodeCatalog

/-! ## Errors -/

/-- Why an operation on files fails. -/
inductive OsError where
  | noEntry
  | notADirectory
  | isADirectory
  | alreadyExists
  | tooManyLinks
  | nameTooLong
  | noSpace
  /-- A path with a character that ends names for the operating system, which is not asked. -/
  | nulInPath
deriving Repr, BEq, DecidableEq, Inhabited

/-- The text of an error, with its number if the operating system answers it. -/
def OsError.message : OsError → String
  | .noEntry => "No such file or directory (os error 2)"
  | .notADirectory => "Not a directory (os error 20)"
  | .isADirectory => "Is a directory (os error 21)"
  | .alreadyExists => "File exists (os error 17)"
  | .tooManyLinks => "Too many levels of symbolic links (os error 40)"
  | .nameTooLong => "File name too long (os error 36)"
  | .noSpace => "No space left on device (os error 28)"
  | .nulInPath => "file name contained an unexpected NUL byte"

/-- Why a file cannot be read as text. -/
inductive ReadFault where
  | os (e : OsError)
  | notText
deriving Repr, BEq, DecidableEq, Inhabited

/-- The text of a fault. -/
def ReadFault.message : ReadFault → String
  | .os e => e.message
  | .notText => "stream did not contain valid UTF-8"

/-! ## Trees of entries -/

/-- What a name in a directory stands for. -/
inductive Entry where
  | file (content : ByteArray)
  /-- A link to another path. -/
  | link (target : String)
  /-- A directory: names with what they stand for, in no particular order. -/
  | dir (entries : List (String × Entry))
  /-- A device that accepts no data. -/
  | fullDevice
deriving Inhabited

/-- The entry reached by a list of names. -/
def Entry.at? : Entry → List String → Option Entry
  | e, [] => some e
  | .dir entries, name :: names =>
    match entries.lookup name with
    | some e => e.at? names
    | none => none
  | _, _ :: _ => none

/-- Gives a name in a directory a new meaning; a new name comes last. -/
def Entry.setName (name : String) (new : Entry) : List (String × Entry) → List (String × Entry)
  | [] => [(name, new)]
  | (n, e) :: rest => if n = name then (n, new) :: rest else (n, e) :: Entry.setName name new rest

/-- Puts an entry at the end of a list of names; the directories on the way must exist. -/
def Entry.put : Entry → List String → Entry → Entry
  | _, [], new => new
  | .dir entries, name :: names, new =>
    match entries.lookup name with
    | some e => .dir (Entry.setName name (e.put names new) entries)
    | none => if names.isEmpty then .dir (Entry.setName name new entries) else .dir entries
  | e, _ :: _, _ => e

mutual

/-- The number of directories in a tree. -/
def Entry.directoryCount : Entry → Nat
  | .dir entries => Entry.directoryCountOf entries + 1
  | _ => 0

/-- The number of directories below the names of a directory. -/
def Entry.directoryCountOf : List (String × Entry) → Nat
  | [] => 0
  | (_, e) :: rest => e.directoryCount + Entry.directoryCountOf rest

end

/-- A tree of entries and the current directory in it. -/
structure FileSystem where
  root : Entry
  current : List String
deriving Inhabited

namespace FileSystem

/-! ## Looking up paths -/

/-- Where a path leads: to an entry, or to a free name in a directory. -/
inductive Spot where
  | occupied (place : List String)
  | vacant (directory : List String) (name : String)
deriving Repr, BEq, DecidableEq, Inhabited

/-- The number of links that a look-up may follow. -/
def maxLinks : Nat := 40

/-- The number of bytes that a name may have. -/
def maxName : Nat := 255

/-- The number of bytes that a path may have. -/
def maxPath : Nat := 4095

/-- Why a path cannot be looked up, whatever the file system holds. -/
def pathFault? (path : String) : Option OsError :=
  if path.toList.contains '\x00' then some .nulInPath
  else if path.isEmpty then some .noEntry
  else if path.utf8ByteSize > maxPath then some .nameTooLong
  else none

/-- The absolute form of a list of names. -/
def absolutePath (place : List String) : String := "/" ++ "/".intercalate place

/-- Where a look-up of a path begins. -/
def start (fs : FileSystem) (path : String) : List String :=
  if Path.isAbsolute path then [] else fs.current

/-- Follows the parts of a path from a place, with at most `links` links on the way. For writing,
neither the path nor the link it leads to may have a slash at its end, which only directories
have. -/
def follow (fs : FileSystem) (writing : Bool) (links : Nat) (place : List String)
    (parts : List String) : Except OsError Spot :=
  match parts with
  | [] => .ok (.occupied place)
  | part :: rest =>
    match fs.root.at? place with
    | some (.dir entries) =>
      if part = "" ∨ part = "." then follow fs writing links place rest
      else if part = ".." then follow fs writing links place.dropLast rest
      else if writing && !rest.isEmpty && rest.all (· == "") then .error .isADirectory
      else if part.utf8ByteSize > maxName then .error .nameTooLong
      else
        match entries.lookup part with
        | none => if rest.isEmpty then .ok (.vacant place part) else .error .noEntry
        | some (.link target) =>
          match links with
          | 0 => .error .tooManyLinks
          | links + 1 =>
            follow fs writing links (if Path.isAbsolute target then [] else place)
              (Path.splitSlash target ++ rest)
        | some _ => follow fs writing links (place ++ [part]) rest
    | some _ => .error .notADirectory
    | none => .error .noEntry
termination_by (links, parts.length)

/-- Where a path leads. -/
def spot (fs : FileSystem) (writing : Bool) (path : String) : Except OsError Spot :=
  match pathFault? path with
  | some e => .error e
  | none => fs.follow writing maxLinks (fs.start path) (Path.splitSlash path)

/-- The place of the entry that a path leads to, without links. -/
def resolve (fs : FileSystem) (path : String) : Except OsError (List String) :=
  match fs.spot false path with
  | .ok (.occupied place) => .ok place
  | .ok (.vacant _ _) => .error .noEntry
  | .error e => .error e

/-- The entry that a path leads to. -/
def entry (fs : FileSystem) (path : String) : Except OsError Entry :=
  match fs.resolve path with
  | .ok place => match fs.root.at? place with
    | some e => .ok e
    | none => .error .noEntry
  | .error e => .error e

/-- Whether a path leads to anything. -/
def exists? (fs : FileSystem) (path : String) : Bool := (fs.entry path).toBool

/-- Whether a path leads to a directory. -/
def isDir (fs : FileSystem) (path : String) : Bool :=
  match fs.entry path with
  | .ok (.dir _) => true
  | _ => false

/-- Whether a path leads to a file. -/
def isFile (fs : FileSystem) (path : String) : Bool :=
  match fs.entry path with
  | .ok (.file _) => true
  | _ => false

/-! ## Reading -/

/-- The bytes of a file. -/
def read (fs : FileSystem) (path : String) : Except OsError ByteArray :=
  match fs.entry path with
  | .ok (.file content) => .ok content
  | .ok (.dir _) => .error .isADirectory
  | .ok _ => .ok .empty
  | .error e => .error e

/-- The text of a file. -/
def readText (fs : FileSystem) (path : String) : Except ReadFault String :=
  match fs.read path with
  | .ok bytes => match String.fromUTF8? bytes with
    | some s => .ok s
    | none => .error .notText
  | .error e => .error (.os e)

/-! ## Changing -/

/-- Puts an entry at a place. -/
def put (fs : FileSystem) (place : List String) (e : Entry) : FileSystem :=
  { fs with root := fs.root.put place e }

/-- The last part of a path and the place of the directory it stands in; slashes at the end of
the path do not count. -/
def lastPart (fs : FileSystem) (path : String) : Except OsError (List String × String) :=
  match pathFault? path, (Path.splitSlash path).reverse.dropWhile (· == "") with
  | some e, _ => .error e
  | none, [] => .error .alreadyExists
  | none, name :: before =>
    match fs.follow false maxLinks (fs.start path) before.reverse with
    | .error e => .error e
    | .ok (.vacant _ _) => .error .noEntry
    | .ok (.occupied place) =>
      match fs.root.at? place with
      | some (.dir _) => .ok (place, name)
      | some _ => .error .notADirectory
      | none => .error .noEntry

/-- Puts a new entry at a path where nothing is yet, not even a link. -/
def create (fs : FileSystem) (path : String) (new : Entry) : Except OsError FileSystem :=
  match fs.lastPart path with
  | .error e => .error e
  | .ok (directory, name) =>
    if name = "." ∨ name = ".." then .error .alreadyExists
    else if name.utf8ByteSize > maxName then .error .nameTooLong
    else if (fs.root.at? (directory ++ [name])).isSome then .error .alreadyExists
    else .ok (fs.put (directory ++ [name]) new)

/-- Creates a directory. -/
def createDir (fs : FileSystem) (path : String) : Except OsError FileSystem :=
  fs.create path (.dir [])

/-- Creates a directory, unless it is there already. -/
def createMissingDir (fs : FileSystem) (path : String) : FileSystem × Except OsError Unit :=
  match fs.createDir path with
  | .ok fs => (fs, .ok ())
  | .error e => (fs, if fs.isDir path then .ok () else .error e)

/-- Creates the first directory of a list, each of which stands in the next one, and those of
the others that it needs. What has been created stays when a later one cannot be. -/
def createDirsAlong : List String → FileSystem → FileSystem × Except OsError Unit
  | [], fs => (fs, .ok ())
  | path :: above, fs =>
    if path.isEmpty then (fs, .ok ())
    else
      match fs.createMissingDir path with
      | (fs, .error .noEntry) =>
        match createDirsAlong above fs with
        | (fs, .error e) => (fs, .error e)
        | (fs, .ok ()) => fs.createMissingDir path
      | answer => answer

/-- Creates a directory and those above it, as far as they are missing. -/
def createDirs (fs : FileSystem) (path : String) : FileSystem × Except OsError Unit :=
  createDirsAlong (path :: Path.above path) fs

/-- Creates the directories above a path, as far as they are missing. -/
def createParents (fs : FileSystem) (path : String) : FileSystem × Except OsError Unit :=
  match Path.parent? path with
  | some parent => fs.createDirs parent
  | none => (fs, .ok ())

/-- Where a file that is opened for writing is, or will be. -/
def writableSpot (fs : FileSystem) (path : String) : Except OsError Spot :=
  match fs.spot true path with
  | .ok (.occupied place) =>
    match fs.root.at? place with
    | some (.dir _) => .error .isADirectory
    | _ => .ok (.occupied place)
  | answer => answer

/-- Opens a file for writing from its begin: the file system with the file emptied or created,
and its place. -/
def truncate (fs : FileSystem) (path : String) : Except OsError (FileSystem × List String) :=
  match fs.writableSpot path with
  | .error e => .error e
  | .ok (.vacant directory name) =>
    .ok (fs.put (directory ++ [name]) (.file .empty), directory ++ [name])
  | .ok (.occupied place) =>
    match fs.root.at? place with
    | some .fullDevice => .ok (fs, place)
    | _ => .ok (fs.put place (.file .empty), place)

/-- Opens a file for writing at its end: the file system with the file created if it was
missing, and its place. -/
def extend (fs : FileSystem) (path : String) : Except OsError (FileSystem × List String) :=
  match fs.writableSpot path with
  | .error e => .error e
  | .ok (.vacant directory name) =>
    .ok (fs.put (directory ++ [name]) (.file .empty), directory ++ [name])
  | .ok (.occupied place) => .ok (fs, place)

/-- Replaces the content of a file, or creates it. -/
def write (fs : FileSystem) (path : String) (content : ByteArray) : Except OsError FileSystem :=
  match fs.truncate path with
  | .error e => .error e
  | .ok (fs, place) =>
    match fs.root.at? place with
    | some .fullDevice => if content.isEmpty then .ok fs else .error .noSpace
    | _ => .ok (fs.put place (.file content))

end FileSystem

end CodeCatalog
