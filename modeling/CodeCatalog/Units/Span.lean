import CodeCatalog.Syntax.Node
import CodeCatalog.Text.Lines

/-!
# Spans of units

Where a unit begins and ends, and the text of its lines. Lines are counted from 1, columns are
bytes. Comments at the end of a block belong to its node but not to the unit.

## Main definitions

* `CodeCatalog.Span` — lines, columns and text.
* `CodeCatalog.codeEnd` — where the last token of a node that is no comment ends.
* `CodeCatalog.definitionSpan`, `CodeCatalog.assignmentSpan` — the spans of units.
-/

namespace CodeCatalog

open Syntax

/-- The lines and columns of a unit and the text of its lines. -/
structure Span where
  startLine : Nat
  endLine : Nat
  startCol : Nat
  endCol : Option Nat
  text : String
deriving Repr, BEq, DecidableEq, Inhabited

/-- The last child that is no comment. -/
def lastCodeChild? (n : Node) : Option Node :=
  n.children.reverse.find? fun c => !c.isComment

/-- The last child that is no comment is a child. -/
theorem mem_children_of_lastCodeChild? {n c : Node} (h : lastCodeChild? n = some c) :
    c ∈ n.children :=
  List.mem_reverse.mp (List.mem_of_find?_eq_some h)

/-- Where the last token of a node that is no comment ends. -/
def codeEnd (n : Node) : Point :=
  match _h : lastCodeChild? n with
  | some c => codeEnd c
  | none => n.info.stop
termination_by n.size
decreasing_by exact Node.size_lt_of_mem_children (mem_children_of_lastCodeChild? _h)

/-- The span of a definition: from its first keyword to the end of the last statement of its
body. Without a statement in the body it is the first line alone, and its end is not known. -/
def definitionSpan (definition : Node) (lines : List String) : Span :=
  let start := definition.info.start
  let startLine := start.row + 1
  let last := (definition.childByField? "body").bind lastCodeChild?
  let (endLine, endCol) := match last with
    | some statement =>
      let stop := codeEnd statement
      (stop.row + 1, some stop.column)
    | none => (startLine, none)
  { startLine, endLine, startCol := start.column, endCol
    text := Text.sliceLines lines startLine endLine }

/-- The span of the target of an assignment: the lines of the whole statement and the columns
of the target. -/
def assignmentSpan (statement target : Node) (lines : List String) : Span :=
  let startLine := statement.info.start.row + 1
  let endLine := (codeEnd statement).row + 1
  { startLine, endLine, startCol := target.info.start.column
    endCol := some target.info.stop.column
    text := Text.sliceLines lines startLine endLine }

end CodeCatalog
