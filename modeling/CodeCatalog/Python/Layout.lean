import CodeCatalog.Text.Bytes

/-!
# Layout: line ends, indentation and string literals

Some tokens of Python depend on more than a pattern: the end of a statement, the begin and end
of a block, and the parts of string literals. They are recognised by a scanner that remembers
the indentation of the open blocks and the open string literals.

The scanner is told which of its tokens the parser could use.

## Main definitions

* `CodeCatalog.Python.Layout` — what the scanner remembers.
* `CodeCatalog.Python.LayoutToken` — the tokens it produces or wants to hear about.
* `CodeCatalog.Python.Layout.scan` — the next token at a position.
-/

namespace CodeCatalog.Python

/-! ## Tokens and state -/

/-- The tokens that the scanner produces (down to `stringEnd`) or wants to hear about. -/
inductive LayoutToken where
  | newline | indent | dedent | stringStart | stringContent | escapedBrace | stringEnd
  | comment | closeBracket | closeParen | closeBrace | except
deriving Repr, BEq, DecidableEq, Inhabited

/-- The place of a token in the list of external tokens of the grammar. -/
def LayoutToken.number (t : LayoutToken) : Nat := t.ctorIdx

/-- An open string literal. -/
structure Delimiter where
  quote : Char
  triple : Bool := false
  raw : Bool := false
  format : Bool := false
  bytes : Bool := false
deriving Repr, BEq, DecidableEq, Inhabited

/-- What the scanner remembers: the indentation of the open blocks and the open string
literals, the innermost first, and whether the literal opened last is a format string. -/
structure Layout where
  indents : List Nat := [0]
  delimiters : List Delimiter := []
  insideFormat : Bool := false
deriving Repr, BEq, DecidableEq, Inhabited

/-- A scanned token: where it begins and ends, and what the scanner remembers after it. -/
structure Scanned where
  token : LayoutToken
  start : Position
  stop : Position
  layout : Layout
deriving Repr, Inhabited

namespace Layout

/-- The character at a position; the null character at the end of the text. -/
def look (text : Array Char) (p : Position) : Char := text.getD p.offset (Char.ofNat 0)

/-- Whether a position is at the end of the text. -/
def atEnd (text : Array Char) (p : Position) : Bool := p.offset ≥ text.size

/-! ## Memory -/

/-- The last items of a list, as many as there is room for. -/
def keepLast (room : Nat) (xs : List α) : List α := xs.drop (xs.length - room)

/-- How many open string literals are remembered. -/
def maxDelimiters : Nat := 255

/-- How many open string literals and blocks are remembered together. -/
def maxOpen : Nat := 1022

/-- How many indentations are told apart. -/
def indentModulus : Nat := 256

/-- What is left of a layout when it is remembered from one token to the next. There is a byte
for each literal and block: of the literals and the blocks only the outermost ones are kept, as
many as there is room for, and indentations that differ by the modulus become the same. The
indentation of the text as a whole is always zero. -/
def remembered (l : Layout) : Layout :=
  let delimiters := keepLast maxDelimiters l.delimiters
  let blocks := keepLast (maxOpen - delimiters.length) l.indents.dropLast
  { l with delimiters, indents := blocks.map (· % indentModulus) ++ [0] }

/-- A token; one that ends before the blanks in front of it is empty. -/
def emit (token : LayoutToken) (start stop : Position) (layout : Layout) : Option Scanned :=
  some ⟨token, if stop.byte < start.byte then stop else start, stop, layout.remembered⟩

/-! ## String contents -/

/-- The result of reading the inside of a string literal. -/
inductive Inside where
  /-- A token was found or ruled out. -/
  | done (result : Option Scanned)
  /-- The text ended inside the literal. -/
  | unfinished (pos : Position)
deriving Inhabited

/-- A piece of string content, provided that it is not empty. -/
def content (has : Bool) (start stop : Position) (layout : Layout) : Inside :=
  .done (if has then emit .stringContent start stop layout else none)

/-- The layout after the innermost literal has ended. -/
def closeString (layout : Layout) : Layout :=
  { layout with delimiters := layout.delimiters.drop 1, insideFormat := false }

/-- Steps over a backslash in a raw literal and what it protects. -/
def skipRawEscape (text : Array Char) (d : Delimiter) (pos : Position) : Position :=
  let p := pos.advance text
  let p := if look text p == d.quote || look text p == '\\' then p.advance text else p
  if look text p == '\r' then
    let p := p.advance text
    if look text p == '\n' then p.advance text else p
  else if look text p == '\n' then p.advance text
  else p

/-- Reads content of a literal up to an escape, an interpolation or the end of the literal. -/
def inside (text : Array Char) (layout : Layout) (d : Delimiter) (start : Position) :
    Nat → Bool → Position → Inside
  | 0, _, pos => .unfinished pos
  | fuel + 1, has, pos =>
    let c := look text pos
    if c == Char.ofNat 0 then .unfinished pos
    else if (c == '{' || c == '}') && d.format then content has start pos layout
    else if c == '\\' then
      if d.raw then inside text layout d start fuel has (skipRawEscape text d pos)
      else if d.bytes then
        let p := pos.advance text
        let e := look text p
        if e == 'N' || e == 'u' || e == 'U' then
          -- no escape sequences in byte strings
          let q := p.advance text
          inside text layout d start fuel true (q.advance text)
        else content has start pos layout
      else content has start pos layout
    else if c == d.quote then
      if d.triple then
        let p := pos.advance text
        if look text p == d.quote then
          let q := p.advance text
          if look text q == d.quote then
            if has then .done (emit .stringContent start pos layout)
            else .done (emit .stringEnd start (q.advance text) (closeString layout))
          else .done (emit .stringContent start q layout)
        else .done (emit .stringContent start p layout)
      else if has then .done (emit .stringContent start pos layout)
      else .done (emit .stringEnd start (pos.advance text) (closeString layout))
    else if c == '\n' && has && !d.triple then .done none
    else inside text layout d start fuel true (pos.advance text)

/-! ## Blanks, line ends and comments -/

/-- What lies between two tokens: where it ends, whether a line end was met, the indentation of
the last line, and the indentation of the first comment on a line of its own. -/
structure Gap where
  pos : Position
  lineEnd : Bool := false
  indent : Nat := 0
  firstComment : Option Nat := none
deriving Repr, Inhabited

/-- The rest of a line, with its line feed. -/
def skipLine (text : Array Char) : Nat → Position → Position
  | 0, pos => pos
  | fuel + 1, pos =>
    let c := look text pos
    if c == Char.ofNat 0 || c == '\n' then pos.advance text
    else skipLine text fuel (pos.advance text)

/-- Reads blanks, line ends, joined lines and (where the layout matters) comments. A comment
behind a token on its line, and a backslash that joins no lines, rule out any layout token. -/
def gap (text : Array Char) (comments : Bool) : Nat → Gap → Option Gap
  | 0, g => some g
  | fuel + 1, g =>
    let c := look text g.pos
    let next := g.pos.advance text
    if c == '\n' then gap text comments fuel { g with pos := next, lineEnd := true, indent := 0 }
    else if c == ' ' then gap text comments fuel { g with pos := next, indent := g.indent + 1 }
    else if c == '\r' || c == '\x0c' then
      gap text comments fuel { g with pos := next, indent := 0 }
    else if c == '\t' then gap text comments fuel { g with pos := next, indent := g.indent + 8 }
    else if c == '#' && comments then
      if !g.lineEnd then none
      else
        gap text comments fuel
          { g with pos := skipLine text (text.size + 1) g.pos, indent := 0,
                   firstComment := g.firstComment <|> some g.indent }
    else if c == '\\' then
      let p := if look text next == '\r' then next.advance text else next
      if look text p == '\n' || atEnd text p then
        gap text comments fuel { g with pos := p.advance text }
      else none
    else if atEnd text g.pos then some { g with indent := 0, lineEnd := true }
    else some g

/-! ## String starts -/

/-- The prefix letters of a literal and the position behind them. -/
def stringFlags (text : Array Char) : Nat → Delimiter → Position → Delimiter × Position
  | 0, d, pos => (d, pos)
  | fuel + 1, d, pos =>
    let c := look text pos
    let next := pos.advance text
    if c == 'f' || c == 'F' then stringFlags text fuel { d with format := true } next
    else if c == 'r' || c == 'R' then stringFlags text fuel { d with raw := true } next
    else if c == 'b' || c == 'B' then stringFlags text fuel { d with bytes := true } next
    else if c == 'u' || c == 'U' then stringFlags text fuel d next
    else (d, pos)

/-- The begin of a string literal: prefix letters and one or three quotes. -/
def stringStart (text : Array Char) (layout : Layout) (start : Position) : Option Scanned :=
  let (d, pos) := stringFlags text (text.size + 1) default start
  let c := look text pos
  let openWith (d : Delimiter) (stop : Position) : Option Scanned :=
    emit .stringStart start stop
      { layout with delimiters := d :: layout.delimiters, insideFormat := d.format }
  if c == '`' then openWith { d with quote := c } (pos.advance text)
  else if c == '\'' || c == '"' then
    let p := pos.advance text
    if look text p == c && look text (p.advance text) == c then
      openWith { d with quote := c, triple := true } ((p.advance text).advance text)
    else openWith { d with quote := c } p
  else none

/-! ## The scanner -/

/-- What the parser could use, as a set of token numbers. -/
def wants (valid : Nat) (t : LayoutToken) : Bool := valid.testBit t.number

/-- The token that a gap with a line end amounts to, from `start` to `stop`. -/
def lineToken (text : Array Char) (valid : Nat) (recovering : Bool) (layout : Layout)
    (start stop : Position) (g : Gap) : Option Scanned :=
  let wants := wants valid
  let withinBrackets := wants .closeBrace || wants .closeParen || wants .closeBracket
  let c := look text g.pos
  let stringNext := c == '"' || c == '\'' || c == '`'
  let newline : Option Scanned :=
    if wants .newline && !recovering then emit .newline start stop layout else none
  match layout.indents with
  | [] => newline
  | current :: outer =>
    let ownComments := match g.firstComment with
      | none => false
      | some n => current ≤ n
    if wants .indent && current < g.indent then
      emit .indent start stop { layout with indents := g.indent :: layout.indents }
    else if (wants .dedent || (!wants .newline && !(wants .stringStart && stringNext) &&
          !withinBrackets)) && g.indent < current && !layout.insideFormat && !ownComments then
      emit .dedent start stop { layout with indents := outer }
    else newline

/-- The part of the scanner behind string contents: `start` is where the token began, `pos`
where the gap begins. -/
def scanGap (text : Array Char) (valid : Nat) (recovering : Bool) (layout : Layout)
    (start pos : Position) : Option Scanned :=
  let wants := wants valid
  let comments := wants .indent || wants .dedent || wants .newline || wants .except
  match gap text comments (text.size + 2) { pos } with
  | none => none
  | some g =>
    -- blanks move the begin of the token
    let start := if g.pos.offset == pos.offset then start else g.pos
    let line := if g.lineEnd then lineToken text valid recovering layout start pos g else none
    match line with
    | some s => some s
    | none =>
      if g.firstComment.isNone && wants .stringStart then stringStart text layout g.pos
      else none

/-- The next layout token at a position, if there is one among those that the parser could
use. -/
def scan (text : Array Char) (valid : Nat) (layout : Layout) (pos : Position) :
    Option Scanned :=
  let wants := wants valid
  let recovering := wants .stringContent && wants .indent
  let c := look text pos
  match layout.delimiters with
  | [] => scanGap text valid recovering layout pos pos
  | d :: _ =>
    if wants .escapedBrace && (c == '{' || c == '}') && !recovering && d.format then
      let p := pos.advance text
      if look text p == c then emit .escapedBrace pos (p.advance text) layout else none
    else if wants .stringContent && !recovering then
      match inside text layout d pos (text.size + 1) false pos with
      | .done result => result
      | .unfinished p => scanGap text valid recovering layout pos p
    else scanGap text valid recovering layout pos pos

end Layout

end CodeCatalog.Python
