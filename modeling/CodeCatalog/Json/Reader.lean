import CodeCatalog.Json.Value
import CodeCatalog.Text.Bytes

/-!
# Reading data

Texts in the JSON format are read from left to right. A reader takes a cursor and gives a value
and the cursor behind it, or a failure. The place of a failure is where the cursor stands, or, if
the character in front of it is at fault, one byte further; lines count from one, columns in
bytes.

Values of a known shape are read directly, so that a value of another shape is refused where it
stands. A failure that has no place yet gets the place where the enclosing array or object has
been read.

## Main definitions

* `CodeCatalog.Json.Cursor`, `Failure`, `Reader` — what readers work on.
* `CodeCatalog.Json.value` — any value.
* `CodeCatalog.Json.arrayOf`, `objectWith` — arrays and objects of a known shape.
* `CodeCatalog.Json.skipValue` — a value that is not needed.
* `CodeCatalog.Json.readAll` — a whole text.
-/

namespace CodeCatalog.Json

/-! ## Cursors -/

/-- A place in a text: what has been read, in reverse, and what has not. -/
structure Cursor where
  before : List Char
  rest : List Char
deriving Repr, BEq, DecidableEq, Inhabited

/-- A place as it is shown: line and column. -/
structure Place where
  line : Nat
  column : Nat
deriving Repr, BEq, DecidableEq, Inhabited

namespace Cursor

/-- The begin of a text. -/
def ofText (text : String) : Cursor := ⟨[], text.toList⟩

/-- The cursor one character further. -/
def advance (c : Cursor) : Cursor :=
  match c.rest with
  | [] => c
  | x :: xs => ⟨x :: c.before, xs⟩

/-- Where the cursor stands. -/
def place (c : Cursor) : Place where
  line := 1 + (c.before.filter (· == '\n')).length
  column := Text.byteSize (c.before.takeWhile (· != '\n'))

/-- The place some bytes further, which may lie inside a character. -/
def placeFrom (before : List Char) : Nat → List Char → Place
  | _, [] => place ⟨before, []⟩
  | n, x :: xs =>
    if n = 0 then place ⟨before, x :: xs⟩
    else if x.utf8Size ≤ n then placeFrom (x :: before) (n - x.utf8Size) xs
    else
      let p := place ⟨before, x :: xs⟩
      ⟨p.line, p.column + n⟩

/-- The place some bytes further. -/
def placeAfter (n : Nat) (c : Cursor) : Place := placeFrom c.before n c.rest

/-- The cursor behind leading characters of a kind. -/
def skipFrom (p : Char → Bool) (before : List Char) : List Char → Cursor
  | [] => ⟨before, []⟩
  | x :: xs => if p x then skipFrom p (x :: before) xs else ⟨before, x :: xs⟩

/-- The cursor behind leading characters of a kind. -/
def skip (p : Char → Bool) (c : Cursor) : Cursor := skipFrom p c.before c.rest

/-- The cursor behind leading blanks. -/
def skipBlanks (c : Cursor) : Cursor := c.skip isBlank

end Cursor

/-! ## Failures -/

/-- Why a text cannot be read, where, and where the cursor stands. -/
structure Failure where
  text : String
  place : Option Place
  cursor : Cursor
deriving Repr, BEq, DecidableEq, Inhabited

/-- Reads something at a cursor. -/
abbrev Reader (α : Type) := Cursor → Except Failure (α × Cursor)

/-- A failure where the cursor stands. -/
def failHere (text : String) (c : Cursor) : Except Failure α := .error ⟨text, some c.place, c⟩

/-- A failure some bytes further. -/
def failAfter (n : Nat) (text : String) (c : Cursor) : Except Failure α :=
  .error ⟨text, some (c.placeAfter n), c⟩

/-- A failure of the byte in front of the cursor. -/
def failNext (text : String) (c : Cursor) : Except Failure α := failAfter 1 text c

/-- A failure without a place. -/
def failLater (text : String) (c : Cursor) : Except Failure α := .error ⟨text, none, c⟩

/-- A failure that has no place is placed where the cursor stands. -/
def Failure.settle (f : Failure) : Failure :=
  { f with place := some (f.place.getD f.cursor.place) }

/-- The text of a failure, with its place. -/
def Failure.message (f : Failure) : String :=
  let p := f.place.getD f.cursor.place
  s!"{f.text} at line {p.line} column {p.column}"

/-- A text that ends inside a value. -/
def eofValue : String := "EOF while parsing a value"

/-- A text that ends inside an array. -/
def eofList : String := "EOF while parsing a list"

/-- A text that ends inside an object. -/
def eofObject : String := "EOF while parsing an object"

/-- A text that ends inside a string. -/
def eofString : String := "EOF while parsing a string"

/-- Something that begins no value. -/
def expectedValue : String := "expected value"

/-- Something behind an item of an array. -/
def expectedListEnd : String := "expected `,` or `]`"

/-- Something behind a member of an object. -/
def expectedObjectEnd : String := "expected `,` or `\x7d`"

/-- Something behind a key. -/
def expectedColon : String := "expected `:`"

/-- A comma with nothing behind it. -/
def trailingComma : String := "trailing comma"

/-- Something behind the end. -/
def trailingCharacters : String := "trailing characters"

/-- A key that is no string. -/
def keyMustBeString : String := "key must be a string"

/-- A number that is written wrongly. -/
def invalidNumber : String := "invalid number"

/-- A number that is too large. -/
def numberOutOfRange : String := "number out of range"

/-- A value of another type than expected. -/
def invalidType (found expected : String) : String := s!"invalid type: {found}, expected {expected}"

/-- A value that is not allowed. -/
def invalidValue (found expected : String) : String :=
  s!"invalid value: {found}, expected {expected}"

/-! ## Words -/

/-- Reads the rest of a word. -/
def word : List Char → Reader Unit
  | [], c => .ok ((), c)
  | x :: xs, c =>
    match c.rest with
    | [] => failHere eofValue c
    | y :: _ => if x = y then word xs c.advance else failNext "expected ident" c

/-! ## Numbers -/

/-- The value of a digit. -/
def digitValue (x : Char) : Nat := x.toNat - 48

/-- Reads digits as long as the number stays within a limit: the number, the count of digits,
and the cursor. -/
def digitsFrom (limit number count : Nat) (before : List Char) : List Char → Nat × Nat × Cursor
  | [] => (number, count, ⟨before, []⟩)
  | x :: xs =>
    if x.isDigit ∧ number * 10 + digitValue x ≤ limit then
      digitsFrom limit (number * 10 + digitValue x) (count + 1) (x :: before) xs
    else (number, count, ⟨before, x :: xs⟩)

/-- Whether a digit comes next. -/
def digitNext (c : Cursor) : Bool :=
  match c.rest with
  | x :: _ => x.isDigit
  | [] => false

/-- Whether a certain character comes next, in small or capital letters. -/
def letterNext (letter : Char) (c : Cursor) : Bool :=
  match c.rest with
  | x :: _ => x.toLower == letter
  | [] => false

/-- The floating-point number of digits and a power of ten. -/
def floatOf (negative : Bool) (digits : Nat) (power : Int) : Reader Number := fun c =>
  match Binary64.ofParts? negative digits.toUInt64 power with
  | some bits => .ok (.float bits, c)
  | none => failHere numberOutOfRange c

/-- The greatest exponent. -/
def maxExponent : Nat := 2147483647

/-- Reads an exponent, at its letter. -/
def exponentPart (negative : Bool) (digits : Nat) (power : Int) : Reader Number := fun c =>
  let c := c.advance
  let (down, c) := match c.rest with
    | '+' :: _ => (false, c.advance)
    | '-' :: _ => (true, c.advance)
    | _ => (false, c)
  match c.rest with
  | [] => failHere eofValue c
  | x :: _ =>
    if !x.isDigit then failNext invalidNumber c
    else
      let (exponent, _, c) := digitsFrom maxExponent 0 0 c.before c.rest
      if digitNext c then
        if digits ≠ 0 ∧ !down then failHere numberOutOfRange c.advance
        else floatOf negative 0 0 (c.skip Char.isDigit)
      else floatOf negative digits (if down then power - exponent else power + exponent) c

/-- Reads what follows the digits behind a point. -/
def behindDigits (negative : Bool) (digits : Nat) (power : Int) : Reader Number := fun c =>
  if letterNext 'e' c then exponentPart negative digits power c else floatOf negative digits power c

/-- Reads a fraction, at its point. Digits beyond the limit do not count. -/
def fractionPart (negative : Bool) (digits : Nat) (power : Int) : Reader Number := fun c =>
  let c := c.advance
  let (digits', count, c) := digitsFrom maxNatural digits 0 c.before c.rest
  if count = 0 ∧ !digitNext c then
    match c.rest with
    | [] => failNext eofValue c
    | _ :: _ => failNext invalidNumber c
  else behindDigits negative digits' (power - count) (c.skip Char.isDigit)

/-- Reads what follows the whole part of a number; a number with more digits than fit goes on as
a floating-point number. -/
def behindWhole (negative : Bool) (whole : Nat) : Reader Number := fun c =>
  if digitNext c then
    let behind := c.skip Char.isDigit
    let power : Int := (c.rest.length - behind.rest.length : Nat)
    match behind.rest with
    | '.' :: _ => fractionPart negative whole power behind
    | _ => behindDigits negative whole power behind
  else
    match c.rest with
    | '.' :: _ => fractionPart negative whole 0 c
    | _ =>
      if letterNext 'e' c then exponentPart negative whole 0 c
      else if !negative then .ok (.natural whole, c)
      else if whole = 0 ∨ whole > 9223372036854775808 then floatOf true whole 0 c
      else .ok (.negative whole, c)

/-- Reads a number behind its sign. -/
def numberBehindSign (negative : Bool) : Reader Number := fun c =>
  match c.rest with
  | [] => failHere eofValue c
  | x :: _ =>
    if x = '0' then
      if digitNext c.advance then failNext invalidNumber c.advance
      else behindWhole negative 0 c.advance
    else if x.isDigit then
      let (whole, _, c) := digitsFrom maxNatural 0 0 c.before c.rest
      behindWhole negative whole c
    else failNext invalidNumber c

/-- Reads a number. -/
def number : Reader Number := fun c =>
  match c.rest with
  | '-' :: _ => numberBehindSign true c.advance
  | _ => numberBehindSign false c

/-! ## Strings -/

/-- The value of a hexadecimal digit. -/
def hexValue? (x : Char) : Option Nat :=
  if x.isDigit then some (x.toNat - 48)
  else if 'a' ≤ x ∧ x ≤ 'f' then some (x.toNat - 87)
  else if 'A' ≤ x ∧ x ≤ 'F' then some (x.toNat - 55)
  else none

/-- The value of four hexadecimal digits. -/
def hexValue4? (a b c d : Char) : Option Nat :=
  match hexValue? a, hexValue? b, hexValue? c, hexValue? d with
  | some a, some b, some c, some d => some (((a * 16 + b) * 16 + c) * 16 + d)
  | _, _, _, _ => none

/-- The character of a short escape. -/
def shortEscape? (x : Char) : Option Char :=
  if x = '"' then some '"'
  else if x = '\\' then some '\\'
  else if x = '/' then some '/'
  else if x = 'b' then some (Char.ofNat 8)
  else if x = 'f' then some (Char.ofNat 12)
  else if x = 'n' then some '\n'
  else if x = 'r' then some '\r'
  else if x = 't' then some '\t'
  else none

/-- Whether a number is the first half of a pair of escapes. -/
def isHighHalf (n : Nat) : Bool := 0xD800 ≤ n && n ≤ 0xDBFF

/-- Whether a number is the second half of a pair of escapes. -/
def isLowHalf (n : Nat) : Bool := 0xDC00 ≤ n && n ≤ 0xDFFF

/-- The character of a pair of escapes. -/
def pairedChar (high low : Nat) : Char :=
  Char.ofNat ((high - 0xD800) * 1024 + (low - 0xDC00) + 0x10000)

/-- A half of a pair without the other. -/
def loneSurrogate : String := "lone leading surrogate in hex escape"

/-- A pair whose second half is missing. -/
def endOfHexEscape : String := "unexpected end of hex escape"

/-- An unknown escape. -/
def invalidEscape : String := "invalid escape"

/-- A character that must be escaped. -/
def controlCharacter : String :=
  "control character (\\u0000-\\u001F) found while parsing a string"

/-- Refuses what stands at the cursor in place of four hexadecimal digits: four bytes that are
none, or the end of the text. -/
def refuseDigits (c : Cursor) : Except Failure α :=
  if Text.byteSize c.rest < 4 then failHere eofString ⟨c.rest.reverse ++ c.before, []⟩
  else failAfter 4 invalidEscape c

/-- Reads a string up to its closing quote; `taken` are its characters in reverse. A lone half of
a pair is refused if `strict`, and a character that must be escaped is refused behind it. -/
def stringFrom (strict : Bool) (taken before : List Char) :
    List Char → Except Failure (String × Cursor)
  | [] => failHere eofString ⟨before, []⟩
  | x :: xs =>
    if x = '"' then .ok (String.ofList taken.reverse, ⟨x :: before, xs⟩)
    else if x = '\\' then
      match xs with
      | [] => failHere eofString ⟨x :: before, []⟩
      | y :: ys =>
        if y = 'u' then
          match ys with
          | a :: b :: c :: d :: zs =>
            let back := d :: c :: b :: a :: y :: x :: before
            match hexValue4? a b c d with
            | none => refuseDigits ⟨y :: x :: before, ys⟩
            | some n =>
              if strict && isLowHalf n then failHere loneSurrogate ⟨back, zs⟩
              else if strict && isHighHalf n then
                match zs with
                | [] => failHere eofString ⟨back, []⟩
                | [p] =>
                  if p = '\\' then failHere eofString ⟨p :: back, []⟩
                  else failNext endOfHexEscape ⟨back, [p]⟩
                | p :: q :: rest =>
                  if p ≠ '\\' then failNext endOfHexEscape ⟨back, p :: q :: rest⟩
                  else if q ≠ 'u' then failNext endOfHexEscape ⟨p :: back, q :: rest⟩
                  else
                    match rest with
                    | e :: f :: g :: h :: more =>
                      match hexValue4? e f g h with
                      | none => refuseDigits ⟨q :: p :: back, rest⟩
                      | some n' =>
                        let back := h :: g :: f :: e :: q :: p :: back
                        if isLowHalf n' then
                          stringFrom strict (pairedChar n n' :: taken) back more
                        else failHere loneSurrogate ⟨back, more⟩
                    | few => refuseDigits ⟨q :: p :: back, few⟩
              else stringFrom strict (Char.ofNat n :: taken) back zs
          | few => refuseDigits ⟨y :: x :: before, few⟩
        else
          match shortEscape? y with
          | some z => stringFrom strict (z :: taken) (y :: x :: before) ys
          | none => failNext invalidEscape ⟨x :: before, y :: ys⟩
    else if x.toNat < 32 then
      if strict then failNext controlCharacter ⟨before, x :: xs⟩
      else failHere controlCharacter ⟨before, x :: xs⟩
    else stringFrom strict (x :: taken) (x :: before) xs

/-- Reads a string, at its opening quote. -/
def string (strict : Bool) : Reader String := fun c =>
  stringFrom strict [] c.advance.before c.advance.rest

/-! ## Arrays -/

/-- Goes to the next item of an array, if there is one. -/
def nextItem (isFirst : Bool) (c : Cursor) : Except Failure (Bool × Cursor) :=
  let c := c.skipBlanks
  match c.rest with
  | [] => failNext eofList c
  | x :: _ =>
    if x = ']' then .ok (false, c)
    else if isFirst then .ok (true, c)
    else if x = ',' then
      let c := c.advance.skipBlanks
      match c.rest with
      | [] => failNext eofValue c
      | y :: _ => if y = ']' then failNext trailingComma c else .ok (true, c)
    else failNext expectedListEnd c

/-- Reads the end of an array. -/
def closeArray (c : Cursor) : Except Failure Cursor :=
  let c := c.skipBlanks
  match c.rest with
  | [] => failNext eofList c
  | x :: _ =>
    if x = ']' then .ok c.advance
    else if x = ',' then
      let c := c.advance.skipBlanks
      match c.rest with
      | ']' :: _ => failNext trailingComma c
      | _ => failNext trailingCharacters c
    else failNext trailingCharacters c

/-- Ends the reading of something that has to be closed. A failure inside wins over one of the
end, but is placed behind the end if it has no place. -/
def closing (close : Cursor → Except Failure Cursor) (result : Except Failure (α × Cursor)) :
    Except Failure (α × Cursor) :=
  match result with
  | .ok (a, c) =>
    match close c with
    | .ok c => .ok (a, c)
    | .error f => .error f
  | .error f =>
    match close f.cursor with
    | .ok c => .error { f with cursor := c }.settle
    | .error g => .error { f with cursor := g.cursor }.settle

/-- Reads the items of an array. Every item takes at least one character, so the length of the
text is enough fuel. -/
def items (item : Reader α) : Nat → Bool → List α → Reader (List α)
  | 0, _, _, c => failHere eofList c
  | fuel + 1, isFirst, taken, c =>
    match nextItem isFirst c with
    | .error f => .error f
    | .ok (false, c) => .ok (taken.reverse, c)
    | .ok (true, c) =>
      match item c with
      | .error f => .error f
      | .ok (a, c) => items item fuel false (a :: taken) c

/-- Reads an array, at its opening bracket. -/
def arrayOf (item : Reader α) : Reader (List α) := fun c =>
  closing closeArray (items item (c.rest.length + 1) true [] c.advance)

/-! ## Objects -/

/-- Goes to the next key of an object, if there is one. -/
def nextKey (isFirst : Bool) (c : Cursor) : Except Failure (Bool × Cursor) :=
  let c := c.skipBlanks
  match c.rest with
  | [] => failNext eofObject c
  | x :: _ =>
    if x = '\x7d' then .ok (false, c)
    else if isFirst then if x = '"' then .ok (true, c) else failNext keyMustBeString c
    else if x = ',' then
      let c := c.advance.skipBlanks
      match c.rest with
      | [] => failNext eofValue c
      | y :: _ =>
        if y = '"' then .ok (true, c)
        else if y = '\x7d' then failNext trailingComma c
        else failNext keyMustBeString c
    else failNext expectedObjectEnd c

/-- Reads the colon behind a key. -/
def colon (c : Cursor) : Except Failure Cursor :=
  let c := c.skipBlanks
  match c.rest with
  | [] => failNext eofObject c
  | x :: _ => if x = ':' then .ok c.advance else failNext expectedColon c

/-- Reads the end of an object. -/
def closeObject (c : Cursor) : Except Failure Cursor :=
  let c := c.skipBlanks
  match c.rest with
  | [] => failNext eofObject c
  | x :: _ =>
    if x = '\x7d' then .ok c.advance
    else if x = ',' then failNext trailingComma c
    else failNext trailingCharacters c

/-- Reads a colon and then a value. -/
def behindColon (item : Reader α) : Reader α := fun c =>
  match colon c with
  | .error f => .error f
  | .ok c => item c

/-- Reads the members of an object; `step` takes a member in, behind its key. -/
def members (step : σ → String → Reader σ) : Nat → Bool → σ → Reader σ
  | 0, _, _, c => failHere eofObject c
  | fuel + 1, isFirst, state, c =>
    match nextKey isFirst c with
    | .error f => .error f
    | .ok (false, c) => .ok (state, c)
    | .ok (true, c) =>
      match string true c with
      | .error f => .error f
      | .ok (key, c) =>
        match step state key c with
        | .error f => .error f
        | .ok (state, c) => members step fuel false state c

/-- Reads an object, at its opening brace; `finish` makes a value of what was taken in. -/
def objectWith (step : σ → String → Reader σ) (start : σ) (finish : σ → Except String α) :
    Reader α := fun c =>
  closing closeObject <|
    match members step (c.rest.length + 1) true start c.advance with
    | .error f => .error f
    | .ok (state, c) =>
      match finish state with
      | .ok a => .ok (a, c)
      | .error text => failLater text c

/-! ## Values -/

/-- How deep arrays and objects may be nested. -/
def maxDepth : Nat := 127

/-- Arrays and objects that are nested too deeply. -/
def recursionLimit : String := "recursion limit exceeded"

/-- Reads a value in which arrays and objects are nested at most so deep. -/
def value : Nat → Reader Value
  | depth, c =>
    let c := c.skipBlanks
    match c.rest with
    | [] => failNext eofValue c
    | x :: _ =>
      if x = 'n' then (word ['u', 'l', 'l'] c.advance).map fun r => (.null, r.2)
      else if x = 't' then (word ['r', 'u', 'e'] c.advance).map fun r => (.bool true, r.2)
      else if x = 'f' then (word ['a', 'l', 's', 'e'] c.advance).map fun r => (.bool false, r.2)
      else if x = '-' ∨ x.isDigit then (number c).map fun r => (.number r.1, r.2)
      else if x = '"' then (string true c).map fun r => (.string r.1, r.2)
      else if x = '[' then
        match depth with
        | 0 => failNext recursionLimit c
        | depth + 1 => (arrayOf (value depth) c).map fun r => (.array r.1, r.2)
      else if x = '\x7b' then
        match depth with
        | 0 => failNext recursionLimit c
        | depth + 1 =>
          (objectWith (fun ms key c => (behindColon (value depth) c).map fun r =>
            (ms ++ [(key, r.1)], r.2)) [] .ok c).map fun r => (.object r.1, r.2)
      else failNext expectedValue c

/-- Puts the members of all objects of a value in the order of their keys; of several members
with one key the last one counts. -/
def Value.sorted : Value → Value
  | .array items => .array (sortedItems items)
  | .object members => .object (sortedMembers members)
  | v => v
where
  /-- The items of an array. -/
  sortedItems : List Value → List Value
    | [] => []
    | v :: vs => v.sorted :: sortedItems vs
  /-- The members of an object. -/
  sortedMembers : List (String × Value) → List (String × Value)
    | [] => []
    | (k, v) :: ms =>
      let rest := sortedMembers ms
      if rest.any (·.1 == k) then rest else insertMember k v.sorted rest

/-! ## Values of a known shape -/

/-- Refuses a value: reads it as far as its kind can be told, and says what was expected. -/
def refuse (expected : String) : Reader α := fun c =>
  match c.rest with
  | [] => failNext expectedValue c
  | x :: _ =>
    if x = '[' then failHere (invalidType "sequence" expected) c
    else if x = '\x7b' then failHere (invalidType "map" expected) c
    else
      match value 0 c with
      | .ok (v, c) => failHere (invalidType v.describe expected) c
      | .error f => .error f

/-- Goes to the begin of a value. -/
def beginValue (read : Char → Reader α) : Reader α := fun c =>
  let c := c.skipBlanks
  match c.rest with
  | [] => failNext eofValue c
  | x :: _ => read x c

/-- What a whole number is called in messages. -/
def naturalName : String := "usize"

/-- The whole number that a number is. -/
def Number.natural? : Number → Except String Nat
  | .natural n => .ok n
  | .negative n => .error (invalidValue (Number.describe (.negative n)) naturalName)
  | .float bits => .error (invalidType (Number.describe (.float bits)) naturalName)

/-- Reads a whole number. -/
def natural : Reader Nat := beginValue fun x c =>
  if x = '-' ∨ x.isDigit then
    match number c with
    | .error f => .error f
    | .ok (n, c) =>
      match n.natural? with
      | .ok n => .ok (n, c)
      | .error text => failHere text c
  else refuse naturalName c

/-- Reads a string. -/
def text : Reader String := beginValue fun x c =>
  if x = '"' then string true c else refuse "a string" c

/-! ## Values that are not needed -/

/-- Something that is being skipped. -/
inductive Frame where
  | array
  | object
deriving Repr, BEq, DecidableEq, Inhabited

/-- What comes next when values are skipped: a value, or something inside an array or object. -/
inductive SkipPhase where
  | value
  | inside (acceptsComma : Bool)
deriving Repr, BEq, DecidableEq, Inhabited

/-- Skips digits, of which there must be one. -/
def skipExponent (c : Cursor) : Except Failure Cursor :=
  let c := c.advance
  let c := match c.rest with
    | '+' :: _ => c.advance
    | '-' :: _ => c.advance
    | _ => c
  if digitNext c then .ok (c.skip Char.isDigit) else failNext invalidNumber c

/-- Skips a number behind its sign. -/
def skipNumber (c : Cursor) : Except Failure Cursor :=
  let behindDigits (c : Cursor) : Except Failure Cursor :=
    if letterNext 'e' c then skipExponent c else .ok c
  let behindWhole (c : Cursor) : Except Failure Cursor :=
    match c.rest with
    | '.' :: _ =>
      if digitNext c.advance then behindDigits (c.advance.skip Char.isDigit)
      else failNext invalidNumber c.advance
    | _ => behindDigits c
  match c.rest with
  | '0' :: _ => if digitNext c.advance then failNext invalidNumber c.advance else behindWhole c.advance
  | _ => if digitNext c then behindWhole (c.skip Char.isDigit) else failNext invalidNumber c

/-- Skips a value without opening anything. -/
def skipScalar (x : Char) (c : Cursor) : Except Failure Cursor :=
  if x = 'n' then (word ['u', 'l', 'l'] c.advance).map (·.2)
  else if x = 't' then (word ['r', 'u', 'e'] c.advance).map (·.2)
  else if x = 'f' then (word ['a', 'l', 's', 'e'] c.advance).map (·.2)
  else if x = '-' then skipNumber c.advance
  else if x.isDigit then skipNumber c
  else if x = '"' then (string false c).map (·.2)
  else failNext expectedValue c

/-- Skips a key and its colon. -/
def skipKey (c : Cursor) : Except Failure Cursor :=
  let c := c.skipBlanks
  match c.rest with
  | [] => failNext eofObject c
  | x :: _ =>
    if x ≠ '"' then failNext keyMustBeString c
    else
      match string false c with
      | .error f => .error f
      | .ok (_, c) => colon c

/-- Skips values; `frames` are the arrays and objects that are open. Every step but the one from
inside to a value takes a character, so twice the length of the text is enough fuel. -/
def skipRun : Nat → SkipPhase → List Frame → Cursor → Except Failure Cursor
  | 0, _, _, c => failHere eofValue c
  | fuel + 1, .value, frames, c =>
    let c := c.skipBlanks
    match c.rest with
    | [] => failNext eofValue c
    | x :: _ =>
      if x = '[' then skipRun fuel (.inside false) (.array :: frames) c.advance
      else if x = '\x7b' then skipRun fuel (.inside false) (.object :: frames) c.advance
      else
        match skipScalar x c with
        | .error f => .error f
        | .ok c => skipRun fuel (.inside true) frames c
  | _ + 1, .inside _, [], c => .ok c
  | fuel + 1, .inside acceptsComma, frame :: frames, c =>
    let c := c.skipBlanks
    let enter (c : Cursor) : Except Failure Cursor :=
      match frame with
      | .array => skipRun fuel .value (frame :: frames) c
      | .object =>
        match skipKey c with
        | .error f => .error f
        | .ok c => skipRun fuel .value (frame :: frames) c
    match c.rest with
    | [] => failNext (if frame = .array then eofList else eofObject) c
    | x :: _ =>
      if x = ',' ∧ acceptsComma then enter c.advance
      else if (x = ']' ∧ frame = .array) ∨ (x = '\x7d' ∧ frame = .object) then
        skipRun fuel (.inside true) frames c.advance
      else if acceptsComma then
        failNext (if frame = .array then expectedListEnd else expectedObjectEnd) c
      else enter c

/-- Skips a value. -/
def skipValue : Reader Unit := fun c =>
  (skipRun (2 * c.rest.length + 2) .value [] c).map fun c => ((), c)

/-! ## Whole texts -/

/-- Reads a whole text. -/
def readAll (read : Reader α) (text : String) : Except Failure α :=
  match read (.ofText text) with
  | .error f => .error f
  | .ok (a, c) =>
    let c := c.skipBlanks
    match c.rest with
    | [] => .ok a
    | _ :: _ => failNext trailingCharacters c

end CodeCatalog.Json
