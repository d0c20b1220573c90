import CodeCatalog.Catalog.Build
import CodeCatalog.Cli.Arguments
import CodeCatalog.Collection.Load
import CodeCatalog.Config.Load

/-!
# Sessions

A session is one run of the program: from a file system, the variables of the environment and a
command line to another file system, a text for the user and an ending. It may ask the user one
question on the way. What the program is put together with is given to every session: what makes
syntax trees, the vocabulary of the encodings, and the texts about its use and its origin.

## Main definitions

* `CodeCatalog.Cli.Edition` — what the program is put together with.
* `CodeCatalog.Cli.report` — a failure as a user sees it.
* `CodeCatalog.Cli.Completion` — how a session ends.
* `CodeCatalog.Cli.Session` — a session that is over, or one that waits for an answer.
* `CodeCatalog.Cli.start` — the session of a command line.
* `CodeCatalog.Cli.run` — the same, with the answers at hand.
-/

namespace CodeCatalog.Cli

/-! ## Editions -/

/-- What the program is put together with. -/
structure Edition where
  /-- What makes the syntax trees of source files. -/
  makeTree : Python.TreeMaker
  vocabulary : Vocabulary
  /-- What is said about the use of the program when words ask for help. -/
  help : List String → String
  /-- What is said about words that make no sense. -/
  advice : List String → String
  /-- The commit that the program was made from. -/
  commit : String
  /-- When the program was made. -/
  made : String

/-- The version of the program, in short or with its origin. -/
def Edition.version (edition : Edition) (long : Bool) : String :=
  if long then s!"codeseer 0.1.0 ({edition.commit}, built {edition.made})\n"
  else "codeseer 0.1.0\n"

/-! ## Reports of failures -/

/-- Puts a text behind the end of every line but the last. -/
def indentLines (indent : List Char) : List Char → List Char
  | [] => []
  | x :: xs => if x = '\n' then x :: (indent ++ indentLines indent xs) else x :: indentLines indent xs

/-- Blanks. -/
def indentation (width : Nat) : List Char := List.replicate width ' '

/-- A text after a heading; its other lines are indented. -/
def hanging (heading : String) (width : Nat) (text : String) : String :=
  heading ++ String.ofList (indentLines (indentation width) text.toList) ++ "\n"

/-- A number, filled up with blanks on the left. -/
def rightAligned (width n : Nat) : String :=
  let digits := toString n
  String.ofList (indentation (width - digits.length)) ++ digits

/-- The causes of a failure; several are numbered. -/
def causes : List String → String
  | [] => ""
  | [text] => "\nCaused by:\n" ++ hanging "    " 4 text
  | texts => "\nCaused by:\n" ++ String.join (texts.zipIdx.map fun (text, n) =>
      hanging (rightAligned 5 n ++ ": ") 7 text)

/-- A chain as a user sees it. -/
def report : List String → String
  | [] => ""
  | text :: texts => s!"Error: {text}\n{causes texts}"

/-! ## Endings -/

/-- How a session ends. -/
inductive Ending where
  | success
  /-- Something went wrong; the chain of causes begins with what was tried. -/
  | failure (chain : List String)
  /-- The command line makes no sense. -/
  | misuse
deriving Repr, BEq, DecidableEq, Inhabited

/-- The code that the program exits with. -/
def Ending.exitCode : Ending → Nat
  | .success => 0
  | .failure _ => 1
  | .misuse => 2

/-- What a session leaves. -/
structure Completion where
  files : FileSystem
  output : String
  ending : Ending
deriving Inhabited

/-- A session that fails; the file system is as it was. -/
def failed (fs : FileSystem) (chain : List String) : Completion := ⟨fs, "", .failure chain⟩

/-- A session that only prints something. -/
def printed (fs : FileSystem) (output : String) : Completion := ⟨fs, output, .success⟩

/-! ## Building -/

/-- The settings with those of the command line in their place. -/
def BuildFlags.apply (flags : BuildFlags) (c : Config) : Config :=
  { c with
    tokenizer := { c.tokenizer with model := flags.model.getD c.tokenizer.model }
    catalog := { c.catalog with
      outputPath := flags.output.getD c.catalog.outputPath
      pretty := c.catalog.pretty && !flags.compact
      onParseError := if flags.skipParseErrors then .skip else c.catalog.onParseError
      parallelExtraction := c.catalog.parallelExtraction || flags.parallel } }

/-- What the user is told about a build. -/
def eventText : BuildEvent → String
  | .processed path _ => s!"\nProcessing file: {path}\n"
  | .skipped path reason => s!"\nSkipping file: {path} ({reason})\n"
  | .enriched r =>
    let u := r.unit
    s!"Type: {u.kind.label}, Name: {u.name}, File: {u.filePath}, " ++
      s!"Lines: {u.startLine} - {u.endLine}, Tokens: {r.tokenCount}\n"

/-- Catalogs a directory and writes the catalog. -/
def buildDirectory (edition : Edition) (fs : FileSystem) (env : Environment) (config : Config)
    (directory : String) : Completion :=
  if !fs.isDir directory then
    failed fs [s!"Invalid directory path: {directory}. Please try again."]
  else
    match TokenCounter.ofModel config.tokenizer.model config.tokenizer.allowedSpecial with
    | .error e => failed fs ("Failed to load tokenizer" :: e.chain)
    | .ok counter =>
      let run := build edition.makeTree fs env config (counter.count edition.vocabulary) directory
      let output := String.join (run.events.map eventText)
      match run.result with
      | .error e => ⟨fs, output, .failure (s!"Failed to catalog {directory}" :: e.chain)⟩
      | .ok outcome =>
        let catalog : Catalog := ⟨outcome.records⟩
        match catalog.writeTo fs config.catalog.outputPath config.catalog.pretty with
        | (fs, .error e) => ⟨fs, output, .failure ("Failed to write catalog" :: e.chain)⟩
        | (fs, .ok ()) => ⟨fs, output, .success⟩

/-! ## Loading -/

/-- The data about every document of a catalog as a line, by id. -/
def metadataLines (c : Catalog) : List (String × String) :=
  c.documents.map fun d => (d.id, (Json.Value.object d.metadata).text false)

/-- What the user is told about a document. Of several with the same id, the data of the last one
is shown. -/
def additionText (metadata : List (String × String)) (a : Addition) : String :=
  let (d, result) := a
  let shown := (metadata.reverse.lookup d.id).getD "\x7b\x7d"
  s!"Adding data point {d.id}: {shown}\n" ++
    match result with
    | .ok () => s!"Data point {d.id} added successfully.\n"
    | .error e => s!"Error adding data point {d.id}: {e.message}\n"

/-- Puts a catalog into a collection file. -/
def loadInto (fs : FileSystem) (catalogPath collectionPath : String) (append : Bool) :
    Completion :=
  match Catalog.readFrom fs catalogPath with
  | .error e => failed fs e.chain
  | .ok catalog =>
    let opened :=
      if append then LineCollection.openExisting fs collectionPath
      else LineCollection.create fs collectionPath
    match opened with
    | (fs, .error e) => failed fs e.chain
    | (fs, .ok collection) =>
      let loading := loadCatalog LineCollection.sink (fs, collection) catalog
      let output := String.join (loading.additions.map (additionText (metadataLines catalog)))
      let (fs, collection) := loading.state
      let fs := collection.close fs
      match loading.result with
      | .error e => ⟨fs, output, .failure ["Failed to load collection", e.message]⟩
      | .ok _ => ⟨fs, output, .success⟩

/-! ## Locating -/

/-- Shows where a record of a catalog comes from. -/
def locateRecord (fs : FileSystem) (identity : Nat) (catalogPath : String) : Completion :=
  match Catalog.readFrom fs catalogPath with
  | .error e => failed fs e.chain
  | .ok catalog =>
    match catalog.get? identity with
    | none => failed fs [s!"No record with identity {identity} in {catalogPath}"]
    | some r => printed fs s!"{r.location}\n\n{r.unit.sourceText}\n"

/-! ## Settings -/

/-- Shows or writes settings; `config` are those in force, `path` is the file to use. -/
def manageConfig (fs : FileSystem) (env : Environment) (config : Config) (path : String) :
    ConfigAction → Completion
  | .display => printed fs (config.toToml ++ "\n")
  | .path => printed fs (path ++ "\n")
  | .init false _ => printed fs ((Config.default env).toToml ++ "\n")
  | .init true force =>
    if fs.exists? path && !force then
      failed fs [s!"{path} already exists (use --force to replace it)"]
    else
      match (Config.default env).save fs path with
      | (fs, .error e) => failed fs (Error.config e).chain
      | (fs, .ok ()) => printed fs s!"Wrote {path}\n"

/-! ## Sessions -/

/-- A session that is over, or one that waits for an answer. -/
inductive Session where
  | over (c : Completion)
  | question (prompt : String) (answered : String → Completion)

/-- What a user is asked who does not say what to catalog. -/
def directoryPrompt : String := "Please enter the directory path: "

/-- The `build` command. -/
def startBuild (edition : Edition) (fs : FileSystem) (env : Environment) (config : Config)
    (flags : BuildFlags) : Session :=
  let config := flags.apply config
  match config.validate with
  | .error e => .over (failed fs (Error.config e).chain)
  | .ok () =>
    match flags.directory.or config.codePath with
    | some directory => .over (buildDirectory edition fs env config directory)
    | none => .question directoryPrompt fun line =>
        buildDirectory edition fs env config (Text.trim line)

/-- A command with the settings in force. -/
def startCommand (edition : Edition) (fs : FileSystem) (env : Environment) (config : Config)
    (configPath : String) : Command → Session
  | .build flags => startBuild edition fs env config flags
  | .load catalog collection append =>
    .over (loadInto fs (catalog.getD config.catalog.outputPath)
      (collection.getD config.collectionPath) append)
  | .locate identity catalog =>
    .over (locateRecord fs identity (catalog.getD config.catalog.outputPath))
  | .config action => .over (manageConfig fs env config configPath action)

/-- A command; its settings are loaded first. -/
def startInvocation (edition : Edition) (fs : FileSystem) (env : Environment) (i : Invocation) :
    Session :=
  match Config.load fs env i.configPath with
  | .error e => .over (failed fs ("Failed to load configuration" :: (Error.config e).chain))
  | .ok config =>
    startCommand edition fs env config (i.configPath.getD (Locations.configFile env)) i.command

/-- The session of a command line. -/
def start (edition : Edition) (fs : FileSystem) (env : Environment) (words : List String) :
    Session :=
  match Request.ofWords words with
  | .run invocation => startInvocation edition fs env invocation
  | .version long => .over (printed fs (edition.version long))
  | .help => .over (printed fs (edition.help words))
  | .misuse => .over ⟨fs, "", .misuse⟩

/-- The first line of what a user types. -/
def firstLine (input : String) : String := String.ofList (input.toList.takeWhile (· != '\n'))

/-- The session of a command line for a user who types something. -/
def run (edition : Edition) (fs : FileSystem) (env : Environment) (words : List String)
    (input : String) : Completion :=
  match start edition fs env words with
  | .over c => c
  | .question prompt answered =>
    let c := answered (firstLine input)
    { c with output := prompt ++ c.output }

end CodeCatalog.Cli
