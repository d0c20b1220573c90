import CodeCatalog.Discovery.Ignore
import CodeCatalog.Error

/-!
# Walking directories

A walk looks at everything below a directory, in the order of names, and yields the source
files. It does so in two steps: first the tree of what is found, then the files in it. Ignore
rules cut branches off the tree before the files are taken.

## Main definitions

* `CodeCatalog.Found` — the tree of what a walk finds.
* `CodeCatalog.Found.look` — looking at a directory.
* `CodeCatalog.Found.prune` — leaving out what is ignored.
* `CodeCatalog.DiscoveryOptions`, `CodeCatalog.discover` — the source files below a directory.
-/

namespace CodeCatalog

/-! ## What a walk finds -/

/-- Why an entry cannot be visited. -/
inductive WalkFault where
  | io (path : String) (e : OsError)
  /-- A link leads to a directory that is being visited. -/
  | loop (path ancestor : String)
deriving Repr, BEq, DecidableEq, Inhabited

/-- The text of a fault. -/
def WalkFault.message : WalkFault → String
  | .io path e => s!"IO error for operation on {path}: {e.message}"
  | .loop path ancestor => s!"File system loop found: {path} points to an ancestor {ancestor}"

/-- The text of a fault in a walk that minds ignore rules: the path comes first. -/
def WalkFault.messageWithPath : WalkFault → String
  | .io path e => s!"{path}: {(WalkFault.io path e).message}"
  | fault => fault.message

/-- The tree of what a walk finds. -/
inductive Found where
  /-- Anything that is not entered, and whether it is a file or leads to one. -/
  | leaf (path : String) (isFile : Bool)
  /-- A directory with what is inside, in the order of names. -/
  | branch (path : String) (inside : List Found)
  | failure (fault : WalkFault)
deriving Repr, Inhabited

namespace Found

/-- The directories on the way to an entry, the deepest first: their paths, and their places
without links. -/
abbrev Trail := List (String × List String)

/-- The order of names. -/
def nameLe (a b : String × Found) : Bool := decide (a.1 ≤ b.1)

mutual

/-- Looks at an entry; `jump` says what is found at a link. The entry is looked at where it stands,
so the length of its path plays no part: a file whose path is longer than `FileSystem.maxPath` is
found, although it cannot be opened by that path (`FileSystem.isFile` is false for it), where an
operating system would answer that the path is too long. -/
def lookAt (jump : Trail → String → Found) (trail : Trail) (path : String)
    (place : List String) : Entry → Found
  | .file _ => .leaf path true
  | .link _ => jump trail path
  | .fullDevice => .leaf path false
  | .dir entries =>
    .branch path (((lookInside jump ((path, place) :: trail) path place entries).mergeSort
      nameLe).map (·.2))

/-- Looks at the entries of a directory: their names with what is found there, however long the
paths get. -/
def lookInside (jump : Trail → String → Found) (trail : Trail) (path : String)
    (place : List String) : List (String × Entry) → List (String × Found)
  | [] => []
  | (name, e) :: rest =>
    (name, lookAt jump trail (Path.join path name) (place ++ [name]) e) ::
      lookInside jump trail path place rest

end

/-- A link that is not followed. -/
def stay (fs : FileSystem) : Trail → String → Found := fun _ path => .leaf path (fs.isFile path)

/-- A link that is followed. Every directory that links lead to joins the trail, and a link to
one of the trail is an error, so the number of directories is enough fuel. -/
def jumpTo (fs : FileSystem) : Nat → Trail → String → Found
  | 0, _, path => .leaf path false
  | fuel + 1, trail, path =>
    match fs.resolve path with
    | .error e => .failure (.io path e)
    | .ok place =>
      match fs.root.at? place with
      | some (.dir entries) =>
        match trail.find? (·.2 == place) with
        | some (ancestor, _) => .failure (.loop path ancestor)
        | none => lookAt (jumpTo fs fuel) trail path place (.dir entries)
      | some (.file _) => .leaf path true
      | _ => .leaf path false

/-- What is found in a directory that a path leads to. -/
def look (fs : FileSystem) (followLinks : Bool) (root : String) : Found :=
  let jump := if followLinks then jumpTo fs (fs.root.directoryCount + 1) else stay fs
  match fs.resolve root with
  | .error e => .failure (.io root e)
  | .ok place =>
    match fs.root.at? place with
    | some e => lookAt jump [] root place e
    | none => .failure (.io root .noEntry)

/-! ## Leaving out what is ignored -/

mutual

/-- A tree without the branches and leaves that rules ignore; `rulesIn` are the rules kept in a
directory. -/
def prune (rulesIn : String → DirectoryRules) (rules : IgnoreRules) : Found → List Found
  | .leaf path isFile => if rules.ignores path false then [] else [.leaf path isFile]
  | .branch path inside =>
    if rules.ignores path true then []
    else [.branch path (pruneAll rulesIn (rules.enter (rulesIn path)) inside)]
  | .failure fault => [.failure fault]

/-- Trees without what rules ignore. -/
def pruneAll (rulesIn : String → DirectoryRules) (rules : IgnoreRules) :
    List Found → List Found
  | [] => []
  | f :: fs => prune rulesIn rules f ++ pruneAll rulesIn rules fs

end

/-- The tree of a walk without what rules ignore; its root is never ignored. -/
def pruneInside (rulesIn : String → DirectoryRules) (rules : IgnoreRules) : Found → Found
  | .branch path inside => .branch path (pruneAll rulesIn (rules.enter (rulesIn path)) inside)
  | f => f

/-! ## The files of a tree -/

mutual

/-- The files of a tree and the faults met, in order. -/
def files : Found → List (Except WalkFault String)
  | .leaf path isFile => if isFile then [.ok path] else []
  | .branch _ inside => filesOf inside
  | .failure fault => [.error fault]

/-- The files of several trees. -/
def filesOf : List Found → List (Except WalkFault String)
  | [] => []
  | f :: fs => files f ++ filesOf fs

end

end Found

/-! ## Source files -/

/-- Which files are source files. -/
structure DiscoveryOptions where
  /-- The extensions of source files, without the dot. -/
  extensions : List String
  /-- Patterns for paths that are left out. -/
  excludePatterns : List String
  respectGitignore : Bool
  followLinks : Bool
deriving Repr, BEq, DecidableEq, Inhabited

/-- Whether a file belongs to the source files below a root. -/
def DiscoveryOptions.accepts (options : DiscoveryOptions) (root path : String) : Bool :=
  match Path.extension? path with
  | none => false
  | some ext =>
    options.extensions.contains ext &&
      !PathPattern.matchesAny ((Path.relativeTo? root path).getD path)
        (options.excludePatterns.map PathPattern.compile)

/-- Whether a path leads through the directory of the version control. -/
def inGitDirectory (path : String) : Bool := (Path.components path).contains ".git"

/-- The source files below a directory, with the faults met. -/
def walkAll (fs : FileSystem) (options : DiscoveryOptions) (root : String) :
    List (Except DiscoveryError String) :=
  (Found.look fs options.followLinks root).files.filterMap fun
    | .ok path => if options.accepts root path then some (.ok path) else none
    | .error fault => some (.error (.walkFailed fault.message))

/-- Whether a path is a spelling of `-`, which stands for the standard input. -/
def isStandardInput (path : String) : Bool := Path.components path == ["-"]

/-- What is found in a directory, less what ignore rules leave out. Such a walk takes `-` for the
standard input, where no files are. -/
def lookUnignored (fs : FileSystem) (env : Environment) (followLinks : Bool) (root : String) :
    Found :=
  if isStandardInput root then .leaf root false
  else (Found.look fs followLinks root).pruneInside (DirectoryRules.load fs)
    (IgnoreRules.above fs env root)

/-- The source files below a directory that no rule ignores, with the faults met. -/
def walkUnignored (fs : FileSystem) (env : Environment) (options : DiscoveryOptions)
    (root : String) : List (Except DiscoveryError String) :=
  (lookUnignored fs env options.followLinks root).files.filterMap fun
    | .ok path =>
      if !inGitDirectory path && options.accepts root path then some (.ok path) else none
    | .error fault => some (.error (.walkFailed fault.messageWithPath))

/-- The source files below a directory, in the order of the walk. -/
def discover (fs : FileSystem) (env : Environment) (options : DiscoveryOptions)
    (root : String) : Except DiscoveryError (List (Except DiscoveryError String)) :=
  if !fs.exists? root then .error (.invalidDirectory s!"{root} does not exist")
  else if !fs.isDir root then .error (.invalidDirectory s!"{root} is not a directory")
  else if options.respectGitignore then .ok (walkUnignored fs env options root)
  else .ok (walkAll fs options root)

end CodeCatalog
