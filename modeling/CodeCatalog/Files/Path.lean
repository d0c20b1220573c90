/-!
# Paths

Paths are texts with slashes. Repeated slashes, a slash at the end and single dots behind the
first component carry no meaning.

## Main definitions

* `CodeCatalog.Path.components` — the meaningful parts of a path.
* `CodeCatalog.Path.join`, `parent?`, `fileName?`, `extension?`, `relativeTo?` — the usual
  operations.
-/

namespace CodeCatalog.Path

/-- Cuts at every slash; `part` holds the part under way in reverse. -/
def splitSlashFrom (part : List Char) : List Char → List (List Char)
  | [] => [part.reverse]
  | c :: cs => if c = '/' then part.reverse :: splitSlashFrom [] cs else splitSlashFrom (c :: part) cs

/-- The parts of a text between slashes. -/
def splitSlash (s : String) : List String := (splitSlashFrom [] s.toList).map String.ofList

/-- Whether a path begins at the root directory. -/
def isAbsolute (path : String) : Bool := path.toList.head? == some '/'

/-- The meaningful parts of a path: nothing empty, and a single dot only at the very begin.
An absolute path begins with the part `/`. -/
def components (path : String) : List String :=
  let parts := splitSlash path
  let meaningful := fun p => p != "" && p != "."
  if isAbsolute path then "/" :: parts.filter meaningful
  else
    match parts with
    | "." :: rest => "." :: rest.filter meaningful
    | parts => parts.filter meaningful

/-- A path from its parts. -/
def ofComponents : List String → String
  | "/" :: rest => "/" ++ "/".intercalate rest
  | parts => "/".intercalate parts

/-- The second path, seen from the first. -/
def join (base path : String) : String :=
  if isAbsolute path then path
  else if base.isEmpty then path
  else if base.toList.getLast? == some '/' then base ++ path
  else base ++ "/" ++ path

/-- The path without its last part; the root directory and the empty path have none. -/
def parent? (path : String) : Option String :=
  match (components path).reverse with
  | [] => none
  | ["/"] => none
  | _ :: rest => some (ofComponents rest.reverse)

/-- The paths above a path, the nearest first. -/
def above (path : String) : List String :=
  match components path with
  | "/" :: names => (inits names).reverse.map fun ns => ofComponents ("/" :: ns)
  | names => (inits names).reverse.map ofComponents
where
  /-- The proper initial parts of a list, the shortest first. -/
  inits : List String → List (List String)
    | [] => []
    | n :: ns => [] :: (inits ns).map (n :: ·)

/-- The last part of a path, unless it leads upwards. -/
def fileName? (path : String) : Option String :=
  match (components path).getLast? with
  | none => none
  | some last => if last == "/" || last == "." || last == ".." then none else some last

/-- What stands behind the last dot of a file name that has something before that dot. -/
def extensionOf? (name : String) : Option String :=
  let back := name.toList.reverse
  let after := back.takeWhile (· != '.')
  match back.drop after.length with
  | [] => none
  | [_] => none
  | _ :: _ => some (String.ofList after.reverse)

/-- The extension of the last part of a path. -/
def extension? (path : String) : Option String := (fileName? path).bind extensionOf?

/-- What is left of a list behind another one that it begins with. -/
def dropFront? : List String → List String → Option (List String)
  | [], ys => some ys
  | _ :: _, [] => none
  | x :: xs, y :: ys => if x = y then dropFront? xs ys else none

/-- A path as seen from a directory above it. -/
def relativeTo? (base path : String) : Option String :=
  (dropFront? (components base) (components path)).map ofComponents

end CodeCatalog.Path
