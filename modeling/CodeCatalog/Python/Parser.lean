import CodeCatalog.Error
import CodeCatalog.Parsing.Tree
import CodeCatalog.Python.Grammar
import CodeCatalog.Text.Class

/-!
# Parsing source files

A source file is accepted when its tree is free of errors and has none of the statements that
only the second major version of the language had.

## Main definitions

* `CodeCatalog.Python.firstError?`, `firstLegacyStatement?` — the offending nodes.
* `CodeCatalog.Python.TreeMaker` — what makes trees of texts.
* `CodeCatalog.Python.parse` — the tree of a source file, made and accepted.
-/

namespace CodeCatalog.Python

open Syntax

/-! ## Errors -/

mutual

/-- The first node, in source order, that is an error or a missing token. -/
def firstError? : Node → Option Node
  | .mk i cs => if i.isError || i.isMissing then some (.mk i cs) else firstErrorOf? cs

/-- The first error in the trees of a list, looking only into those that have one. -/
def firstErrorOf? : List Node → Option Node
  | [] => none
  | .mk i cs :: ns =>
    if i.hasError then
      match firstError? (.mk i cs) with
      | some n => some n
      | none => firstErrorOf? ns
    else firstErrorOf? ns

end

/-- The length of the excerpt in an error text. -/
def excerptLength : Nat := 40

/-- The begin of the first line of a text, without blanks at its ends. -/
def excerpt (text : String) : String :=
  let line := text.toList.takeWhile (· != '\n')
  String.ofList ((Text.trimChars line).take excerptLength)

/-- Why a node is an error. -/
def describeError (source : List Char) (n : Node) : String :=
  if n.info.isMissing then s!"missing `{n.kind}`"
  else
    let excerpt := excerpt (n.text source)
    if excerpt.isEmpty then "invalid syntax" else s!"invalid syntax near `{excerpt}`"

/-! ## Statements of the second version -/

/-- Whether a node is a statement that only the second version of the language had. -/
def isLegacyStatement (n : Node) : Bool :=
  n.kind == "print_statement" || n.kind == "exec_statement"

/-- The first such statement among the nodes still to visit and everything below them. -/
def searchLegacy : List Node → Option Node
  | [] => none
  | n :: rest => if isLegacyStatement n then some n else searchLegacy (n.namedChildren ++ rest)
termination_by ns => Node.sizeList ns
decreasing_by
  rw [Node.sizeList_append, Node.sizeList]
  have := Node.sizeList_namedChildren_lt n
  omega

/-- The first such statement of a tree. -/
def firstLegacyStatement? (root : Node) : Option Node := searchLegacy [root]

/-- The keyword of a statement of the second version. -/
def legacyKeyword (n : Node) : String :=
  if n.kind == "print_statement" then "print" else "exec"

/-! ## Acceptance -/

/-- The error at a node. -/
def errorAt (file : String) (n : Node) (reason : String) : SyntaxError :=
  { file, line := n.info.start.row + 1, column := n.info.start.column, reason }

/-- Accepts a tree that is free of errors and of statements of the second version. -/
def checkTree (file : String) (source : List Char) (root : Node) : Except SyntaxError Node :=
  if root.info.hasError then
    let n := (firstError? root).getD root
    .error (errorAt file n (describeError source n))
  else
    match firstLegacyStatement? root with
    | some n => .error (errorAt file n s!"invalid syntax: Python 2 `{legacyKeyword n}` statement")
    | none => .ok root

/-- What makes the syntax tree of a text, or gives up. -/
abbrev TreeMaker := String → Option Node

/-- The grammar with its tables. -/
def language : Parsing.Language := .ofSource grammar

/-- Trees are made by the grammar. -/
def treeMaker : TreeMaker := language.parse

/-- Accepts the tree of a source file, if there is one. -/
def checkParsed (file source : String) : Option Node → Except SyntaxError Node
  | some root => checkTree file source.toList root
  | none => .error { file, line := 1, column := 0, reason := "parser produced no syntax tree" }

/-- The tree of a source file. -/
def parse (make : TreeMaker) (file source : String) : Except SyntaxError Node :=
  checkParsed file source (make source)

end CodeCatalog.Python
