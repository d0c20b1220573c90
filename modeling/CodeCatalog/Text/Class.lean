/-!
# Classes of characters

A class with many characters is given as a table of closed ranges of code points in increasing
order, and a code point is looked up by bisection. The characters that count as blank (the Unicode
property `White_Space`) are removed at both ends of a text, and split a text into words.

## Main definitions

* `CodeCatalog.Text.inRanges` — whether a number lies in one of the ranges of a table.
* `CodeCatalog.Text.isBlank` — the class.
* `CodeCatalog.Text.trim` — a text without blanks at its ends.
* `CodeCatalog.Text.words` — the maximal stretches without blanks.
-/

namespace CodeCatalog.Text

/-! ## Tables -/

/-- Bisection between the positions `lo` and `hi` of a table of closed, increasing ranges. -/
def searchRange (table : Array (Nat × Nat)) (n : Nat) : Nat → Nat → Nat → Bool
  | 0, _, _ => false
  | fuel + 1, lo, hi =>
    if lo ≥ hi then false
    else
      let mid := (lo + hi) / 2
      match table[mid]? with
      | none => false
      | some (first, last) =>
        if n < first then searchRange table n fuel lo mid
        else if last < n then searchRange table n fuel (mid + 1) hi
        else true

/-- Whether `n` lies in one of the ranges of the table. Every halving of the interval uses one
unit of fuel, so as much fuel as there are ranges is enough. -/
def inRanges (table : Array (Nat × Nat)) (n : Nat) : Bool :=
  searchRange table n (table.size + 1) 0 table.size

/-! ## Blanks -/

/-- The blank characters. -/
def isBlank (c : Char) : Bool :=
  let n := c.toNat
  (0x9 ≤ n && n ≤ 0xD) || n == 0x20 || n == 0x85 || n == 0xA0 || n == 0x1680 ||
    (0x2000 ≤ n && n ≤ 0x200A) || n == 0x2028 || n == 0x2029 || n == 0x202F || n == 0x205F ||
    n == 0x3000

/-- Drops the characters at the end that satisfy `p`. -/
def dropWhileEnd (p : Char → Bool) (s : List Char) : List Char :=
  (s.reverse.dropWhile p).reverse

/-- Drops the blanks at both ends. -/
def trimChars (s : List Char) : List Char :=
  dropWhileEnd isBlank (s.dropWhile isBlank)

/-- A text without the blanks at its ends. -/
def trim (s : String) : String := String.ofList (trimChars s.toList)

/-- Gathers words; `word` holds the letters of the word under way in reverse. -/
def wordsFrom (word : List Char) : List Char → List (List Char)
  | [] => if word.isEmpty then [] else [word.reverse]
  | c :: cs =>
    if isBlank c then
      if word.isEmpty then wordsFrom [] cs else word.reverse :: wordsFrom [] cs
    else wordsFrom (c :: word) cs

/-- The maximal stretches without blanks. -/
def words (s : String) : List String := (wordsFrom [] s.toList).map String.ofList

end CodeCatalog.Text
