import CodeCatalog.Parsing.Engine
import CodeCatalog.Syntax.Node

/-!
# From parse results to syntax trees

The tree that a parser leaves has nodes for hidden rules and repetitions. The syntax tree has
the visible nodes only, under the names and in the roles that the productions give them.

## Main definitions

* `CodeCatalog.Parsing.Subtree.nodes` — the visible nodes of a parser's tree.
* `CodeCatalog.Parsing.Language.parse` — the syntax tree of a text.
-/

namespace CodeCatalog.Parsing

open Grammar Syntax

/-- The place of a position. -/
def pointOf (p : Position) : Point := ⟨p.row, p.column⟩

/-- Gives the first of several nodes a role; a hidden node passes its role on in this way. -/
def giveField : Option String → List Node → List Node
  | some f, n :: ns => n.withField f :: ns
  | _, ns => ns

mutual

/-- The visible nodes of a parser's tree, under another name and in a role where the parent
says so: one node, or the nodes inside a hidden one. -/
def Subtree.nodes (lang : Language) (renamed : Option Alias) (field : Option String) :
    Subtree → List Node
  | .node i cs =>
    let own := appearance lang.grammar i.symbol
    let shown : Appearance := match renamed with
      | some a => ⟨a.name, true, a.named⟩
      | none => own
    let inside := childNodes lang (lang.automaton.shapes.getD i.shape #[]) 0 cs
    if shown.visible then
      [.mk { kind := shown.name, named := shown.named, field
             startByte := i.start.byte, endByte := i.stop.byte
             start := pointOf i.start, stop := pointOf i.stop
             isError := i.symbol == errorSymbol, isMissing := i.missing
             hasError := i.missing || i.errorCost > 0 || i.symbol == errorSymbol } inside]
    else giveField field inside

/-- The visible nodes of the children of a symbol; `index` counts the children that are not
extra. -/
def childNodes (lang : Language) (shape : Array ChildShape) (index : Nat) :
    List Subtree → List Node
  | [] => []
  | .node i cs :: rest =>
    if i.extra then
      Subtree.nodes lang none none (.node i cs) ++ childNodes lang shape index rest
    else
      let child := shape[index]?
      Subtree.nodes lang (child.bind (·.renamed)) (child.bind (·.field)) (.node i cs) ++
        childNodes lang shape (index + 1) rest

end

/-- The syntax tree of a text. -/
def Language.parse (lang : Language) (text : String) : Option Node :=
  (parseTree lang text.toList.toArray).bind fun t => (Subtree.nodes lang none none t).head?

end CodeCatalog.Parsing
