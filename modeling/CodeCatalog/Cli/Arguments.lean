import CodeCatalog.Json.Value

/-!
# Arguments

What the words of a command line ask for. Options may stand anywhere, with one dash and a letter
or with two dashes and a name; letters may be joined, and a value follows as the next word, behind
an equals sign, or right behind the letter. Behind two lone dashes nothing is an option. Some
options may be given with every command.

## Main definitions

* `CodeCatalog.Cli.Command` — what the program can do.
* `CodeCatalog.Cli.Level`, `Level.read` — the words that a command understands, and reading them.
* `CodeCatalog.Cli.Request.ofWords` — what a command line asks for.
-/

namespace CodeCatalog.Cli

/-! ## Commands -/

/-- What the `build` command is told. -/
structure BuildFlags where
  directory : Option String := none
  output : Option String := none
  model : Option String := none
  skipParseErrors : Bool := false
  parallel : Bool := false
  compact : Bool := false
deriving Repr, BEq, DecidableEq, Inhabited

/-- What can be done with the settings. -/
inductive ConfigAction where
  | display
  | init (write force : Bool)
  | path
deriving Repr, BEq, DecidableEq, Inhabited

/-- What the program can do. -/
inductive Command where
  /-- Catalog a directory. -/
  | build (flags : BuildFlags)
  /-- Put a catalog into a collection. -/
  | load (catalog collection : Option String) (append : Bool)
  /-- Show where a record comes from. -/
  | locate (identity : Nat) (catalog : Option String)
  | config (action : ConfigAction)
deriving Repr, BEq, DecidableEq, Inhabited

/-- A command, and the settings file that it is told to use. -/
structure Invocation where
  configPath : Option String
  command : Command
deriving Repr, BEq, DecidableEq, Inhabited

/-- What a command line asks for. -/
inductive Request where
  | run (invocation : Invocation)
  /-- The version of the program, in short or with the commit that it was made from. -/
  | version (long : Bool)
  | help
  /-- The words make no sense. -/
  | misuse
deriving Repr, BEq, DecidableEq, Inhabited

/-! ## Words -/

/-- What a value must be like. -/
inductive ValueKind where
  | text
  /-- A path; it is not empty. -/
  | path
  /-- A number of 64 bits. -/
  | natural
deriving Repr, BEq, DecidableEq, Inhabited

/-- The number that a word stands for; a plus sign may stand before it. -/
def natural? (word : String) : Option Nat :=
  let digits := match word.toList with
    | '+' :: ds => ds
    | ds => ds
  if digits.isEmpty || !digits.all Char.isDigit then none
  else
    let n := digits.foldl (fun n d => n * 10 + (d.toNat - 48)) 0
    if n ≤ Json.maxNatural then some n else none

/-- Whether a word can be a value. -/
def ValueKind.accepts (kind : ValueKind) (word : String) : Bool :=
  match kind with
  | .text => true
  | .path => !word.isEmpty
  | .natural => (natural? word).isSome

/-- An option: its name, its letter, and what its value must be like if it has one. -/
structure Flag where
  name : String
  letter : Option Char
  value : Option ValueKind
deriving Repr, BEq, DecidableEq, Inhabited

/-- The words that a command understands. -/
structure Level where
  flags : List Flag
  operands : List ValueKind
  subcommands : List String
  hasVersion : Bool
deriving Repr, BEq, DecidableEq, Inhabited

/-- The words that a command was given: options with their values, and other words. -/
structure Given where
  options : List (String × String) := []
  operands : List String := []
deriving Repr, BEq, DecidableEq, Inhabited

/-- Why the reading of words ends early. -/
inductive Interruption where
  | version (long : Bool)
  | help
  | misuse
deriving Repr, BEq, DecidableEq, Inhabited

namespace Given

/-- The value of an option. -/
def value? (g : Given) (name : String) : Option String := g.options.lookup name

/-- Whether an option was given. -/
def has (g : Given) (name : String) : Bool := (g.value? name).isSome

/-- Takes an option in, which may be given only once. -/
def addOption (g : Given) (name word : String) : Except Interruption Given :=
  if g.has name then .error .misuse else .ok { g with options := g.options ++ [(name, word)] }

/-- Takes the value of an option in. -/
def addValue (g : Given) (flag : Flag) (kind : ValueKind) (word : String) :
    Except Interruption Given :=
  if kind.accepts word then g.addOption flag.name word else .error .misuse

end Given

namespace Level

/-- Takes a word in that is no option. -/
def addOperand (level : Level) (g : Given) (word : String) : Except Interruption Given :=
  match level.operands[g.operands.length]? with
  | some kind =>
    if kind.accepts word then .ok { g with operands := g.operands ++ [word] } else .error .misuse
  | none => .error .misuse

/-- An option whose value is the next word. -/
structure Pending where
  flag : Flag
  kind : ValueKind

/-- Takes an option by name in, with a value behind an equals sign if there is one. -/
def addNamed (level : Level) (g : Given) (name : String) (attached : Option String) :
    Except Interruption (Given × Option Pending) :=
  if name = "help" then .error .help
  else if name = "version" && level.hasVersion then .error (.version true)
  else
    match level.flags.find? (·.name == name) with
    | none => .error .misuse
    | some flag =>
      match flag.value, attached with
      | none, none => (g.addOption name "").map fun g => (g, none)
      | none, some _ => .error .misuse
      | some kind, some word => (g.addValue flag kind word).map fun g => (g, none)
      | some kind, none => .ok (g, some ⟨flag, kind⟩)

/-- Takes options by letter in. What follows the letter of an option with a value is its value;
an equals sign before it does not count. -/
def addLetters (level : Level) (g : Given) :
    List Char → Except Interruption (Given × Option Pending)
  | [] => .ok (g, none)
  | letter :: rest =>
    if letter = 'h' then .error .help
    else if letter = 'V' && level.hasVersion then .error (.version false)
    else
      match level.flags.find? (·.letter == some letter) with
      | none => .error .misuse
      | some flag =>
        match flag.value with
        | none => match g.addOption flag.name "" with
          | .ok g => addLetters level g rest
          | .error e => .error e
        | some kind =>
          match rest with
          | [] => .ok (g, some ⟨flag, kind⟩)
          | '=' :: word => (g.addValue flag kind (String.ofList word)).map fun g => (g, none)
          | word => (g.addValue flag kind (String.ofList word)).map fun g => (g, none)

/-- Splits a name and the value behind its first equals sign. -/
def splitName (word : List Char) : String × Option String :=
  let name := word.takeWhile (· != '=')
  match word.drop name.length with
  | [] => (String.ofList name, none)
  | _ :: attached => (String.ofList name, some (String.ofList attached))

/-- Whether a word looks like an option. -/
def looksLikeOption (word : String) : Bool :=
  match word.toList with
  | '-' :: _ :: _ => true
  | _ => false

/-- Takes a word in that looks like an option. -/
def addFlagWord (level : Level) (g : Given) (word : String) :
    Except Interruption (Given × Option Pending) :=
  match word.toList with
  | '-' :: '-' :: name => level.addNamed g (splitName name).1 (splitName name).2
  | '-' :: letters => level.addLetters g letters
  | _ => .error .misuse

/-- The words of a command, and its subcommand with the words behind it. -/
abbrev Reading := Given × Option (String × List String)

/-- Takes words in that are no options. -/
def readOperands (level : Level) : Given → List String → Except Interruption Reading
  | g, [] => .ok (g, none)
  | g, word :: words =>
    match level.addOperand g word with
    | .ok g => readOperands level g words
    | .error e => .error e

/-- Takes words in, up to the name of a subcommand. -/
def read (level : Level) : Given → Option Pending → List String → Except Interruption Reading
  | g, none, [] => .ok (g, none)
  | _, some _, [] => .error .misuse
  | g, some p, word :: words =>
    if looksLikeOption word then .error .misuse
    else
      match g.addValue p.flag p.kind word with
      | .ok g => read level g none words
      | .error e => .error e
  | g, none, word :: words =>
    if level.subcommands.contains word then .ok (g, some (word, words))
    else if word = "--" then readOperands level g words
    else if looksLikeOption word then
      match level.addFlagWord g word with
      | .ok (g, pending) => read level g pending words
      | .error e => .error e
    else
      match level.addOperand g word with
      | .ok g => read level g none words
      | .error e => .error e

end Level

/-! ## The levels of this program -/

/-- The options that may be given with every command. -/
def commonFlags : List Flag := [⟨"config", some 'c', some .path⟩, ⟨"verbose", some 'v', none⟩]

/-- The words before the command. -/
def topLevel : Level := ⟨commonFlags, [], ["build", "load", "locate", "config", "help"], true⟩

/-- The words of the `build` command. -/
def buildLevel : Level where
  flags := commonFlags ++ [⟨"output", some 'o', some .path⟩, ⟨"model", some 'm', some .text⟩,
    ⟨"skip-parse-errors", none, none⟩, ⟨"parallel", none, none⟩, ⟨"compact", none, none⟩]
  operands := [.path]
  subcommands := []
  hasVersion := false

/-- The words of the `load` command. -/
def loadLevel : Level where
  flags := commonFlags ++ [⟨"collection", none, some .path⟩, ⟨"append", none, none⟩]
  operands := [.path]
  subcommands := []
  hasVersion := false

/-- The words of the `locate` command. -/
def locateLevel : Level := ⟨commonFlags, [.natural, .path], [], false⟩

/-- The words of the `config` command. -/
def configLevel : Level := ⟨commonFlags, [], ["show", "init", "path", "help"], false⟩

/-- The words of `config init`. -/
def initLevel : Level :=
  ⟨commonFlags ++ [⟨"write", none, none⟩, ⟨"force", none, none⟩], [], [], false⟩

/-- The words of commands without words of their own. -/
def plainLevel : Level := ⟨commonFlags, [], [], false⟩

/-! ## Help -/

/-- Whether words behind `config` name something that there is help about. -/
def isActionTopic : List String → Bool
  | [] => true
  | [name] => configLevel.subcommands.contains name
  | _ => false

/-- Whether words name something that there is help about. -/
def isTopic : List String → Bool
  | [] => true
  | "config" :: words => isActionTopic words
  | [name] => topLevel.subcommands.contains name
  | _ => false

/-- Help is given about what there is. -/
def Interruption.ofTopic (known : Bool) : Interruption := if known then .help else .misuse

/-! ## Requests -/

/-- A command with the words that it was given, which name the settings file. -/
abbrev Understood := Command × Given

/-- The `build` command. -/
def readBuild (words : List String) : Except Interruption Understood := do
  let (g, _) ← buildLevel.read {} none words
  return (.build {
    directory := g.operands[0]?
    output := g.value? "output"
    model := g.value? "model"
    skipParseErrors := g.has "skip-parse-errors"
    parallel := g.has "parallel"
    compact := g.has "compact" }, g)

/-- The `load` command. -/
def readLoad (words : List String) : Except Interruption Understood := do
  let (g, _) ← loadLevel.read {} none words
  return (.load g.operands[0]? (g.value? "collection") (g.has "append"), g)

/-- The `locate` command, which needs a number. -/
def readLocate (words : List String) : Except Interruption Understood := do
  let (g, _) ← locateLevel.read {} none words
  match g.operands[0]?.bind natural? with
  | some identity => return (.locate identity g.operands[1]?, g)
  | none => throw .misuse

/-- What is to be done with the settings. To replace a file makes sense only when one is to be
written. -/
def readAction (name : String) (words : List String) :
    Except Interruption (ConfigAction × Given) := do
  if name = "show" then
    let (g, _) ← plainLevel.read {} none words
    return (.display, g)
  else if name = "path" then
    let (g, _) ← plainLevel.read {} none words
    return (.path, g)
  else if name = "init" then
    let (g, _) ← initLevel.read {} none words
    if g.has "force" && !g.has "write" then throw .misuse
    return (.init (g.has "write") (g.has "force"), g)
  else throw (.ofTopic (isActionTopic words))

/-- The settings file that the innermost of several commands names. -/
def innerConfig (outer : Given) (inner : Given) : Given :=
  match inner.value? "config", outer.value? "config" with
  | none, some path => { inner with options := inner.options ++ [("config", path)] }
  | _, _ => inner

/-- The `config` command. -/
def readConfig (words : List String) : Except Interruption Understood := do
  let (g, sub) ← configLevel.read {} none words
  match sub with
  | some (name, words) =>
    let (action, inner) ← readAction name words
    return (.config action, innerConfig g inner)
  | none => throw .misuse

/-- The command with a name. -/
def readCommand (name : String) (words : List String) : Except Interruption Understood :=
  if name = "build" then readBuild words
  else if name = "load" then readLoad words
  else if name = "locate" then readLocate words
  else if name = "config" then readConfig words
  else .error (.ofTopic (isTopic words))

/-- The words of a command line. -/
def readWords (words : List String) : Except Interruption Invocation := do
  let (g, sub) ← topLevel.read {} none words
  match sub with
  | some (name, words) =>
    let (command, inner) ← readCommand name words
    return ⟨(innerConfig g inner).value? "config", command⟩
  | none => throw .misuse

/-- What a command line asks for. -/
def Request.ofWords (words : List String) : Request :=
  match readWords words with
  | .ok invocation => .run invocation
  | .error (.version long) => .version long
  | .error .help => .help
  | .error .misuse => .misuse

end CodeCatalog.Cli
