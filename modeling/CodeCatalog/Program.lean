import CodeCatalog.Cli.Session
import CodeCatalog.Files.Snapshot

/-!
# The program

An edition of the program takes a snapshot of what the command line is about, runs the session on
it, and carries the changes over. Before a session begins, the parts of the file system that it may
look at have to be known. What stands in them has to be readable: a snapshot has no place for
something that is there and cannot be read, so that ends the program before anything is changed.

## Main definitions

* `CodeCatalog.Cli.settingsPaths` — the files that settings may come from.
* `CodeCatalog.Cli.Command.files`, `Command.trees` — the other files and directories of a command.
* `CodeCatalog.Cli.ignoreFiles` — the files with rules that hold below a directory.
* `CodeCatalog.Program.prepare` — the snapshot for a command.
* `CodeCatalog.Program.execute` — the program.
-/

/-! ## What a session looks at -/

namespace CodeCatalog.Cli

/-- The files that settings may come from. -/
def settingsPaths (env : Environment) (i : Invocation) : List String :=
  [i.configPath.getD (Locations.configFile env)]

/-- The files that a command reads or writes. -/
def Command.files (config : Config) : Command → List String
  | .build flags => [(flags.apply config).catalog.outputPath]
  | .load catalog collection _ =>
    [catalog.getD config.catalog.outputPath, collection.getD config.collectionPath]
  | .locate _ catalog => [catalog.getD config.catalog.outputPath]
  | .config _ => []

/-- The directories that a command goes through; `answer` is what the user may have typed. -/
def Command.trees (config : Config) (answer : String) : Command → List String
  | .build flags => [(flags.directory.or config.codePath).getD (Text.trim answer)]
  | _ => []

/-- The files with rules of what to leave out in directories above a place, and the one that holds
everywhere. -/
def ignoreFiles (env : Environment) (place : List String) : List String :=
  let home := ((env.get? "HOME").map fun home => Path.join home ".config/git/ignore").toList
  let above := (List.range (place.length + 1)).map fun n =>
    FileSystem.absolutePath (place.take n)
  home ++ above.flatMap fun directory =>
    [".gitignore", ".ignore", ".git/info/exclude"].map (Path.join directory)

end CodeCatalog.Cli

/-! ## Snapshots -/

namespace CodeCatalog.Program

/-- A place in the file system. -/
def placeOf (names : List String) : IO.FS.DirEntry :=
  ⟨FileSystem.absolutePath names.dropLast, names.getLast?.getD ""⟩

/-- The names of an absolute path. -/
def namesOf (path : String) : List String :=
  (Path.splitSlash path).filter fun name => name != "" && name != "."

/-- A snapshot under way: the tree, and the places that links lead to. -/
structure Snapshot where
  tree : Entry := .dir []
  targets : List (List String) := []

/-- What kind of entry stands at a place, if any does. -/
def kindAt? (names : List String) : IO (Option IO.FS.FileType) := do
  try
    return some (← (placeOf names).path.symlinkMetadata).type
  catch
    | .noFileOrDirectory .. => return none
    | e => throw e

/-- Where a link leads, unless it leads nowhere. -/
def target? (names : List String) : IO (Option (List String)) := do
  try
    return some (namesOf (← IO.FS.realPath (placeOf names).path).toString)
  catch _ => return none

/-- The entry at a place; a directory comes with everything below it if `deep`. Links that lead
nowhere are left out. -/
partial def readEntry (deep : Bool) (names : List String) : StateT Snapshot IO (Option Entry) := do
  let path := (placeOf names).path
  match ← kindAt? names with
  | some .file => return some (.file (← IO.FS.readBinFile path))
  | some .symlink =>
    let some there ← target? names | return none
    modify fun s => { s with targets := there :: s.targets }
    return some (.link (FileSystem.absolutePath there))
  | some .dir =>
    if !deep then return some (.dir [])
    let mut entries : List (String × Entry) := []
    for entry in ← path.readDir do
      if let some e ← readEntry deep (names ++ [entry.fileName]) then
        entries := (entry.fileName, e) :: entries
    return some (.dir entries.reverse)
  | some .other => return none
  | none => return none

/-- Adds what stands at a path to the snapshot, with the directories and links on the way. -/
partial def addPath (deep : Bool) (done : List String) (names : List String) :
    StateT Snapshot IO Unit := do
  match names with
  | [] => if deep then addHere deep done
  | ".." :: rest => addPath deep done.dropLast rest
  | name :: rest =>
    let here := done ++ [name]
    if ((← get).tree.at? here).isNone || (deep && rest.isEmpty) then
      addHere (deep && rest.isEmpty) here
    match (← get).tree.at? here with
    | some (.dir _) => addPath deep here rest
    | some (.link there) => addPath deep [] (namesOf there ++ rest)
    | _ => return
where
  /-- Adds the entry at a place. -/
  addHere (deep : Bool) (names : List String) : StateT Snapshot IO Unit := do
    if let some e ← readEntry deep names then
      modify fun s => { s with tree := s.tree.graft names e }

/-- Adds what links lead to, as long as there is something new. -/
partial def addTargets (deep : Bool) : StateT Snapshot IO Unit := do
  match (← get).targets with
  | [] => return
  | there :: rest =>
    modify fun s => { s with targets := rest }
    if ((← get).tree.at? there).isNone then addPath deep [] there
    addTargets deep

/-- The place that a path names, as seen from a directory. -/
def placeFrom (current : List String) (path : String) : List String :=
  (if Path.isAbsolute path then [] else current) ++ namesOf path

/-- Adds what stands at paths. -/
def add (current : List String) (deep : Bool) (paths : List String) : StateT Snapshot IO Unit := do
  for path in paths do
    addPath deep [] (placeFrom current path)
    addTargets deep

/-! ## Running -/

/-- The variables that matter. -/
def environment : IO Environment := do
  let names := ["HOME", "XDG_CONFIG_HOME", "XDG_DATA_HOME", "CODESEER_CODE_PATH",
    "CODESEER_MODEL", "CODESEER_OUTPUT", "CODESEER_ON_PARSE_ERROR"]
  let values ← names.mapM fun name => do return (← IO.getEnv name).map fun value => (name, value)
  return ⟨values.filterMap id⟩

/-- Carries a change over. -/
def carryOver (change : Change) : IO Unit :=
  match change.content with
  | none => IO.FS.createDirAll (placeOf change.place).path
  | some content => IO.FS.writeBinFile (placeOf change.place).path content

/-- Asks the user what a session wants to know, and goes on with the answer. -/
def ask (session : Cli.Session) : IO String := do
  match session with
  | .over _ => return ""
  | .question prompt _ =>
    IO.print prompt
    (← IO.getStdout).flush
    (← IO.getStdin).getLine

/-- The end of a session, once the user has answered. -/
def complete (session : Cli.Session) (answer : String) : Cli.Completion :=
  match session with
  | .over c => c
  | .question _ answered => answered answer

/-- A snapshot of all that a command looks at, and what the user answered. -/
def prepare (edition : Cli.Edition) (env : Environment) (current words : List String)
    (i : Cli.Invocation) : IO (FileSystem × String) := do
  let ((), s) ← (add current false ("." :: Cli.settingsPaths env i)).run {}
  let fs : FileSystem := ⟨s.tree, current⟩
  let answer ← ask (Cli.start edition fs env words)
  let config := (Config.load fs env i.configPath).toOption.getD (Config.default env)
  let trees := i.command.trees config answer
  let rules := trees.flatMap fun tree => Cli.ignoreFiles env (placeFrom current tree)
  let ((), s) ← (add current true trees).run s
  let ((), s) ← (add current false (i.command.files config ++ rules)).run s
  return (⟨s.tree, current⟩, answer)

/-- Runs a command line, and carries over what it changes. -/
def runWords (edition : Cli.Edition) (words : List String) : IO Cli.Completion := do
  let env ← environment
  let current := namesOf (← IO.currentDir).toString
  let (fs, answer) ← match Cli.Request.ofWords words with
    | .run i => prepare edition env current words i
    | _ => pure (⟨.dir [], current⟩, "")
  let c := complete (Cli.start edition fs env words) answer
  for change in c.files.root.changes [] (some fs.root) do
    carryOver change
  return c

/-- The program for a command line; reports of failures go to the error output. -/
def execute (edition : Cli.Edition) (words : List String) : IO UInt32 := do
  try
    let c ← runWords edition words
    IO.print c.output
    match c.ending with
    | .failure chain => IO.eprint (Cli.report chain)
    | .misuse => IO.eprint (edition.advice words)
    | .success => pure ()
    return c.ending.exitCode.toUInt32
  catch e =>
    IO.eprint (Cli.report ["The file system cannot be used", toString e])
    return 1

end CodeCatalog.Program
