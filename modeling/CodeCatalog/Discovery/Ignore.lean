import CodeCatalog.Discovery.GitFiles
import CodeCatalog.Discovery.Glob
import CodeCatalog.Text.Class

/-!
# Ignore rules

Version control keeps files that say which entries of a directory do not belong to it. Each line
is a rule: a pattern, perhaps only for directories, perhaps taking back what other rules ignore.
Rules hold in the directory of their file and everything below it; the deepest file that says
anything about an entry decides, and in a file the last rule.

## Main definitions

* `CodeCatalog.IgnoreRule`, `CodeCatalog.RuleFile` — rules and files of rules.
* `CodeCatalog.DirectoryRules` — the rules kept in one directory.
* `CodeCatalog.IgnoreRules` — all rules that hold for the entries of a directory.
* `CodeCatalog.IgnoreRules.ignores` — whether an entry is ignored.
-/

namespace CodeCatalog

/-! ## Rules -/

/-- What rules say about an entry. -/
inductive Verdict where
  | undecided
  | ignored
  | kept
deriving Repr, BEq, DecidableEq, Inhabited

/-- The first verdict, unless it is undecided. -/
def Verdict.orElse : Verdict → Verdict → Verdict
  | .undecided, v => v
  | v, _ => v

/-- The first verdict of a list that is not undecided. -/
def Verdict.first (vs : List Verdict) : Verdict := vs.foldr Verdict.orElse .undecided

/-- A rule: which entries it is about, and what it says about them. -/
structure IgnoreRule where
  glob : Glob
  /-- Whether the rule is for directories only. -/
  onlyDirs : Bool
  /-- What the rule says. -/
  verdict : Verdict
deriving Repr, Inhabited

/-- The rules of one file. -/
structure RuleFile where
  /-- The directory that the patterns are relative to. -/
  directory : String
  rules : List IgnoreRule
deriving Repr, Inhabited

namespace IgnoreRule

/-- What is left of a list behind another one. -/
def dropLeading? : List Char → List Char → Option (List Char)
  | [], cs => some cs
  | _ :: _, [] => none
  | p :: ps, c :: cs => if p = c then dropLeading? ps cs else none

/-- Patterns of rules: wildcards stop at slashes, and a bracket that is never closed stands for
itself. -/
def style : Glob.Style := ⟨true, .classesWhileClosed⟩

/-- Whether a text ends in a given way. -/
def endsWith (cs ending : List Char) : Bool := ending.isSuffixOf cs

/-- The blanks at the end of a line do not count, unless a backslash stands before the last
one. -/
def trimLine (line : List Char) : List Char :=
  if endsWith line ['\\', ' '] then line else (line.reverse.dropWhile Text.isBlank).reverse

/-- Takes a sign at the begin of a rule apart: whether it takes entries back, whether its
pattern is bound to the directory of its file, and the pattern. -/
def readSigns : List Char → Bool × Bool × List Char
  | '\\' :: '!' :: cs => (false, false, '!' :: cs)
  | '\\' :: '#' :: cs => (false, false, '#' :: cs)
  | '!' :: '/' :: cs => (true, true, cs)
  | '!' :: cs => (true, false, cs)
  | '/' :: cs => (false, true, cs)
  | cs => (false, false, cs)

/-- Takes the slash at the end of a pattern away, and a backslash before it. -/
def readSlash (cs : List Char) : Bool × List Char :=
  match cs.reverse with
  | '/' :: '\\' :: back => (true, back.reverse)
  | '/' :: back => (true, back.reverse)
  | _ => (false, cs)

/-- The pattern as it is matched: one without slashes holds at every depth, and one for
everything below a directory does not hold for the directory. -/
def completePattern (bound : Bool) (cs : List Char) : List Char :=
  let everywhere := !bound && !cs.contains '/' &&
    !(['*', '*', '/'].isPrefixOf cs || cs == ['*', '*'])
  let cs := if everywhere then ['*', '*', '/'] ++ cs else cs
  if endsWith cs ['/', '*', '*'] then cs ++ ['/', '*'] else cs

/-- The rule of a line; comments, blank lines and invalid patterns are none. -/
def ofLine? (line : String) : Option IgnoreRule :=
  match line.toList with
  | '#' :: _ => none
  | cs =>
    match trimLine cs with
    | [] => none
    | cs =>
      let (takesBack, bound, cs) := readSigns cs
      let (onlyDirs, cs) := readSlash cs
      match Glob.parse? style (String.ofList (completePattern bound cs)) with
      | none => none
      | some glob => some ⟨glob, onlyDirs, if takesBack then .kept else .ignored⟩

/-- Whether a rule is about an entry. -/
def isAbout (r : IgnoreRule) (path : List UInt8) (isDir : Bool) : Bool :=
  (!r.onlyDirs || isDir) && Glob.isMatch r.glob path

end IgnoreRule

namespace RuleFile

/-- The lines of a file as far as they are text. -/
def textLines : List (List UInt8) → List String
  | [] => []
  | line :: rest =>
    match Text.lineText? line with
    | some s => s :: textLines rest
    | none => []

/-- The rules in the content of a file. -/
def ofContent (directory : String) (content : ByteArray) : RuleFile :=
  let lines := textLines (Text.byteLines content)
  let lines := match lines with
    | first :: rest =>
      String.ofList (first.toList.dropWhile (· == Text.byteOrderMark)) :: rest
    | [] => []
  ⟨directory, lines.filterMap IgnoreRule.ofLine?⟩

/-- The rules of a file; none when it cannot be read. -/
def load (fs : FileSystem) (directory path : String) : RuleFile :=
  match fs.read path with
  | .ok content => ofContent directory content
  | .error _ => ⟨directory, []⟩

/-- A path without `./` at its begin. -/
def dropDot (path : List Char) : List Char := (IgnoreRule.dropLeading? ['.', '/'] path).getD path

/-- A path as seen from a directory above it; both are compared as texts. -/
def seenFrom (directory path : List Char) : List Char :=
  match IgnoreRule.dropLeading? directory path with
  | some ('/' :: rest) => rest
  | some rest => rest
  | none => path

/-- Whether a path is another spelling of `.`. -/
def isDot (path : List Char) : Bool := Path.components (String.ofList path) == ["."]

/-- The path of an entry as the patterns of a file see it. A path without a slash, or below the
directory `.`, is already relative. -/
def localPath (file : RuleFile) (path : String) : List Char :=
  let path := dropDot path.toList
  let directory := dropDot file.directory.toList
  if isDot directory || !path.contains '/' then path else seenFrom directory path

/-- What the rules of a file say about an entry: the last rule about it decides. -/
def verdict (file : RuleFile) (path : String) (isDir : Bool) : Verdict :=
  if file.rules.isEmpty then .undecided
  else
    let bytes := (String.ofList (file.localPath path)).toUTF8.toList
    match file.rules.reverse.find? (·.isAbout bytes isDir) with
    | some r => r.verdict
    | none => .undecided

end RuleFile

/-! ## The rules of directories -/

/-- The rules kept in one directory: general ones, those of the version control, and those that
only its copy of the repository has. -/
structure DirectoryRules where
  general : RuleFile
  shared : RuleFile
  own : RuleFile
deriving Repr, Inhabited

/-- The rules kept in a directory. -/
def DirectoryRules.load (fs : FileSystem) (directory : String) : DirectoryRules where
  general := .load fs directory (Path.join directory ".ignore")
  shared := .load fs directory (Path.join directory ".gitignore")
  own := match Git.repository? fs directory with
    | some repository => .load fs directory (Path.join repository "info/exclude")
    | none => ⟨directory, []⟩

/-- The rules that hold for the entries of a directory. -/
structure IgnoreRules where
  /-- The directory where a walk begins. -/
  root : String
  /-- The same without links. -/
  base : String
  /-- The rules of the directories from the root of the walk down, the deepest first. -/
  inner : List DirectoryRules
  /-- The rules of the directories above the root, the deepest first. -/
  outer : List DirectoryRules
  /-- The rules of the user. -/
  user : RuleFile
deriving Repr, Inhabited

namespace IgnoreRules

/-- The rules of the user; their patterns are relative to the current directory. -/
def loadUser (fs : FileSystem) (env : Environment) : RuleFile :=
  let here := FileSystem.absolutePath fs.current
  match Git.userRules? fs env with
  | some path => if fs.isFile path then .load fs here path else ⟨here, []⟩
  | none => ⟨here, []⟩

/-- The rules above a directory where a walk begins. -/
def above (fs : FileSystem) (env : Environment) (root : String) : IgnoreRules :=
  match fs.resolve root with
  | .ok place =>
    let base := FileSystem.absolutePath place
    { root, base, inner := [], outer := (Path.above base).map (DirectoryRules.load fs),
      user := loadUser fs env }
  | .error _ => { root, base := root, inner := [], outer := [], user := loadUser fs env }

/-- The rules inside a directory. -/
def enter (rules : IgnoreRules) (directory : DirectoryRules) : IgnoreRules :=
  { rules with inner := directory :: rules.inner }

/-- The absolute path of an entry below the root of the walk, from its path without `./`. -/
def absolute (rules : IgnoreRules) (path : String) : String :=
  let root := rules.root.toList
  let inside := if RuleFile.isDot root then path.toList
    else RuleFile.seenFrom (RuleFile.dropDot root) path.toList
  Path.join rules.base (String.ofList inside)

/-- What the files of one kind say about an entry: the deepest that says anything decides. -/
def verdictOf (rules : IgnoreRules) (kind : DirectoryRules → RuleFile) (path : String)
    (isDir : Bool) : Verdict :=
  Verdict.first (rules.inner.map (fun d => (kind d).verdict path isDir) ++
    rules.outer.map fun d => (kind d).verdict (rules.absolute path) isDir)

/-- What all rules say about an entry. One `./` is dropped from its path before any file of rules
sees it, and every file drops one more. -/
def verdict (rules : IgnoreRules) (path : String) (isDir : Bool) : Verdict :=
  let path := String.ofList (RuleFile.dropDot path.toList)
  Verdict.first [rules.verdictOf (·.general) path isDir, rules.verdictOf (·.shared) path isDir,
    rules.verdictOf (·.own) path isDir, rules.user.verdict path isDir]

/-- Whether an entry is ignored. -/
def ignores (rules : IgnoreRules) (path : String) (isDir : Bool) : Bool :=
  rules.verdict path isDir == .ignored

end IgnoreRules

end CodeCatalog
