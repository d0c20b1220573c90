import CodeCatalog.Text.Class
import CodeCatalog.Text.Identifier
import CodeCatalog.Tokens.Encoding

/-!
# Pieces of a text

Before a text is turned into tokens it is cut into pieces, words with the blank before them,
numbers, marks and blanks. Tokens never cross the border of a piece.

## Main definitions

* `CodeCatalog.Pieces.PieceRules` — how an encoding cuts.
* `CodeCatalog.Pieces.split` — the pieces of a text.
-/

namespace CodeCatalog.Pieces

/-! ## Classes of characters -/

/-- Whether a character is a letter. Beyond ASCII, what can begin a name counts as one. -/
def isLetter (c : Char) : Bool := Identifier.isStart c

/-- Whether a character is a digit. -/
def isNumber (c : Char) : Bool := c.isDigit

/-- Whether a character ends a line. -/
def isLineEnd (c : Char) : Bool := c == '\n' || c == '\r'

/-- Whether a character is none of the above and no blank. -/
def isMark (c : Char) : Bool := !Text.isBlank c && !isLetter c && !isNumber c

/-! ## Rules -/

/-- How an encoding cuts texts. -/
structure PieceRules where
  /-- Whether the endings behind an apostrophe may be capital letters. -/
  capitalEndings : Bool
  /-- Whether any mark, not only a blank, goes with the word behind it. -/
  marksBeforeWords : Bool
  /-- The greatest number of digits in a piece. -/
  maxDigits : Option Nat
  /-- Whether a blank goes with the number behind it. -/
  blankBeforeNumbers : Bool
  /-- Whether the ends of lines go with the marks or blanks before them. -/
  keepsLineEnds : Bool
deriving Repr, BEq, DecidableEq, Inhabited

/-- The rules of an encoding. -/
def rules : Encoding → PieceRules
  | .r50k => ⟨false, false, none, true, false⟩
  | .p50k => ⟨false, false, none, true, false⟩
  | .p50kEdit => ⟨false, false, none, true, false⟩
  | .cl100k => ⟨true, true, some 3, false, true⟩
  | .o200k => ⟨true, true, some 3, false, true⟩

/-- The endings that may follow an apostrophe. -/
def endings : List (List Char) :=
  [['s'], ['t'], ['r', 'e'], ['v', 'e'], ['m'], ['l', 'l'], ['d']]

/-- The length of an apostrophe with its ending. -/
def endingLength (r : PieceRules) : List Char → Nat
  | '\'' :: cs =>
    let cs := if r.capitalEndings then cs.map Char.toLower else cs
    match endings.find? (·.isPrefixOf cs) with
    | some e => e.length + 1
    | none => 0
  | _ => 0

/-- The length of the leading characters of a kind. -/
def runLength (p : Char → Bool) (cs : List Char) : Nat := (cs.takeWhile p).length

/-- The length of a word, with what may stand before it. -/
def wordLength (r : PieceRules) : List Char → Nat
  | [] => 0
  | c :: cs =>
    if isLetter c then runLength isLetter (c :: cs)
    else
      let goesWith := if r.marksBeforeWords then !isLineEnd c && !isNumber c else c == ' '
      if goesWith && runLength isLetter cs > 0 then runLength isLetter cs + 1 else 0

/-- The length of a number. -/
def numberLength (r : PieceRules) (cs : List Char) : Nat :=
  match cs with
  | ' ' :: rest =>
    if r.blankBeforeNumbers && runLength isNumber rest > 0 then runLength isNumber rest + 1 else 0
  | cs =>
    match r.maxDigits with
    | some n => min n (runLength isNumber cs)
    | none => runLength isNumber cs

/-- The length of marks, with a blank before them. -/
def markLength (r : PieceRules) (cs : List Char) : Nat :=
  let (blank, rest) := match cs with
    | ' ' :: rest => (1, rest)
    | cs => (0, cs)
  let marks := runLength isMark rest
  if marks = 0 then 0
  else if r.keepsLineEnds then blank + marks + runLength isLineEnd (rest.drop marks)
  else blank + marks

/-- The length of blanks. Those up to the last end of a line are a piece; otherwise the last
blank is left for the word behind it. -/
def blankLength (r : PieceRules) (cs : List Char) : Nat :=
  let blanks := cs.takeWhile Text.isBlank
  let lines := (Text.dropWhileEnd (fun c => !isLineEnd c) blanks).length
  if r.keepsLineEnds && lines > 0 then lines
  else if blanks.length = cs.length || blanks.length ≤ 1 then blanks.length
  else blanks.length - 1

/-- The length of the first piece of a text: the first rule that applies decides. -/
def firstLength (r : PieceRules) (cs : List Char) : Nat :=
  let lengths := [endingLength r cs, wordLength r cs, numberLength r cs, markLength r cs,
    blankLength r cs]
  max 1 ((lengths.find? (· > 0)).getD 1)

/-- The pieces of a text. -/
def split (r : PieceRules) (cs : List Char) : List (List Char) :=
  match cs with
  | [] => []
  | c :: rest =>
    let n := firstLength r (c :: rest)
    (c :: rest).take n :: split r ((c :: rest).drop n)
termination_by cs.length
decreasing_by
  simp only [List.length_drop, List.length_cons]
  have : 1 ≤ firstLength r (c :: rest) := Nat.le_max_left 1 _
  omega

end CodeCatalog.Pieces
