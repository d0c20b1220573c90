import CodeCatalog.Text.Class

/-!
# Physical lines

A text is cut into lines behind every line feed; each line keeps its own. A range of lines is
taken as one block, without the blanks at its ends.

## Main definitions

* `CodeCatalog.Text.physicalLines` — the lines of a text.
* `CodeCatalog.Text.sliceLines` — a range of lines as one trimmed block.
-/

namespace CodeCatalog.Text

/-- Cuts behind every line feed; `line` holds the line under way in reverse. -/
def linesFrom (line : List Char) : List Char → List (List Char)
  | [] => if line.isEmpty then [] else [line.reverse]
  | c :: cs =>
    if c = '\n' then (c :: line).reverse :: linesFrom [] cs else linesFrom (c :: line) cs

/-- The lines of a text, each with its line feed. -/
def physicalLines (s : String) : List String := (linesFrom [] s.toList).map String.ofList

/-- Lines `first` to `last`, counted from 1 and both included, as one block without the blanks
at its ends. Numbers outside the text are moved to its ends. -/
def sliceLines (lines : List String) (first last : Nat) : String :=
  let start := min (first - 1) lines.length
  let stop := max (min last lines.length) start
  trim (String.join ((lines.drop start).take (stop - start)))

/-- The lines of bytes, each without its line end; `part` holds the line under way in reverse.
A carriage return before the end of a line belongs to the end. -/
def byteLinesFrom (part : List UInt8) : List UInt8 → List (List UInt8)
  | [] => if part.isEmpty then [] else [part.reverse]
  | b :: bs =>
    if b = 10 then
      let line := match part with
        | 13 :: rest => rest
        | part => part
      line.reverse :: byteLinesFrom [] bs
    else byteLinesFrom (b :: part) bs

/-- The lines of bytes, each without its line end. -/
def byteLines (bytes : ByteArray) : List (List UInt8) := byteLinesFrom [] bytes.toList

/-- The text of a line, if it is text. -/
def lineText? (line : List UInt8) : Option String := String.fromUTF8? ⟨line.toArray⟩

end CodeCatalog.Text
