import CodeCatalog.Config.Locations
import CodeCatalog.Files.System
import CodeCatalog.Text.Lines

/-!
# Files of the version control

Some rules of the version control are kept apart from the directories that they are about: in the
data of a repository, which may be shared between several directories, and in a file of the user,
which the settings of the user may name.

## Main definitions

* `CodeCatalog.Git.repository?` — where the data of the repository of a directory is kept.
* `CodeCatalog.Git.excludesFile?` — the file of rules that settings name.
* `CodeCatalog.Git.userRules?` — where the rules of a user are kept.
-/

namespace CodeCatalog.Git

/-! ## Repositories -/

/-- The first line of a file, if it can be read and the line is text. -/
def firstLine? (fs : FileSystem) (path : String) : Option String :=
  match fs.read path with
  | .ok content => (Text.byteLines content).head?.bind Text.lineText?
  | .error _ => none

/-- What is left of a text behind another one that it begins with. -/
def behind? (start text : String) : Option String :=
  if start.toList.isPrefixOf text.toList then some (String.ofList (text.toList.drop start.length))
  else none

/-- Where the data of the repository of a directory is kept: in `.git`, unless that is a file. The
file names another directory, and a file there the one that several directories share; its name
is relative to the other directory when it begins with a dot. -/
def repository? (fs : FileSystem) (directory : String) : Option String :=
  let here := Path.join directory ".git"
  if fs.isFile here then do
    let other ← behind? "gitdir: " (← firstLine? fs here)
    let shared ← firstLine? fs (Path.join other "commondir")
    return if (behind? "." shared).isSome then Path.join other shared else shared
  else some here

/-! ## Settings of a user

A setting is a line with a name, an equals sign and a value of one word, perhaps in quotes. The
sections of the settings do not matter. Blanks around the parts of a setting may be line feeds. -/

/-- Blanks between the parts of a setting. -/
def isSettingBlank (b : UInt8) : Bool := b == 32 || (9 ≤ b && b ≤ 13)

/-- Whether the line ends here, but for blanks. -/
def endsLine (bs : List UInt8) : Bool :=
  match bs.dropWhile fun b => isSettingBlank b && b != 10 with
  | [] => true
  | b :: _ => b == 10

/-- Whether a value may end here: only blanks and a quote stand before the end of the line. -/
def endsValue (bs : List UInt8) : Bool :=
  endsLine bs ||
    match bs.dropWhile isSettingBlank with
    | 34 :: rest => endsLine rest
    | _ => false

/-- The shortest word at the begin of the bytes that may be a value. -/
def valueWord? : List UInt8 → Option (List UInt8)
  | [] => none
  | b :: rest =>
    if isSettingBlank b then none
    else if endsValue rest then some [b]
    else (valueWord? rest).map (b :: ·)

/-- The value behind an equals sign. A quote before it does not belong to it, unless nothing else
does. -/
def value? (bs : List UInt8) : Option (List UInt8) :=
  match bs.dropWhile isSettingBlank with
  | 34 :: rest =>
    (valueWord? (rest.dropWhile isSettingBlank)).orElse fun _ => valueWord? (34 :: rest)
  | bs => valueWord? bs

/-- A letter of ASCII as a small one. -/
def smallLetter (b : UInt8) : UInt8 := if 65 ≤ b && b ≤ 90 then b + 32 else b

/-- The value of a setting with the given name, in small letters, at the begin of the bytes. -/
def setting? (name : List UInt8) (bs : List UInt8) : Option (List UInt8) :=
  let bs := bs.dropWhile isSettingBlank
  if (bs.take name.length).map smallLetter = name then
    match (bs.drop name.length).dropWhile isSettingBlank with
    | 61 :: rest => value? rest
    | _ => none
  else none

/-- The value of the first setting with a name that has one, on the lines behind the next line
feed. -/
def laterSetting? (name : List UInt8) : List UInt8 → Option (List UInt8)
  | [] => none
  | b :: rest =>
    if b = 10 then (setting? name rest).orElse fun _ => laterSetting? name rest
    else laterSetting? name rest

/-- The value of the first setting with a name that has one. -/
def firstSetting? (name : List UInt8) (bs : List UInt8) : Option (List UInt8) :=
  (setting? name bs).orElse fun _ => laterSetting? name bs

/-- A path with the home directory in place of every tilde. -/
def expandTilde (env : Environment) (path : String) : String :=
  match env.get? "HOME" with
  | some home =>
    String.ofList (path.toList.flatMap fun c => if c = '~' then home.toList else [c])
  | none => path

/-- The file of rules that the settings in a file name. -/
def excludesFile? (fs : FileSystem) (env : Environment) (settings : String) : Option String :=
  match fs.read settings with
  | .ok content =>
    ((firstSetting? "excludesfile".toUTF8.toList content.toList).bind Text.lineText?).map
      (expandTilde env)
  | .error _ => none

/-! ## Rules of a user -/

/-- The directory where programs keep the settings of the user. -/
def settingsDirectory? (env : Environment) : Option String :=
  let fallback := (env.get? "HOME").map fun home => Path.join home ".config"
  match env.get? "XDG_CONFIG_HOME" with
  | some dir => if dir.isEmpty then fallback else some dir
  | none => fallback

/-- Where the rules of the user are kept: in the file that the settings in the home directory
name, else in the one that those in the settings directory name, else in a standard one. -/
def userRules? (fs : FileSystem) (env : Environment) : Option String :=
  let atHome := (env.get? "HOME").bind fun home =>
    excludesFile? fs env (Path.join home ".gitconfig")
  let directory := settingsDirectory? env
  atHome.orElse fun _ =>
    (directory.bind fun dir => excludesFile? fs env (Path.join dir "git/config")).orElse fun _ =>
      directory.map fun dir => Path.join dir "git/ignore"

end CodeCatalog.Git
