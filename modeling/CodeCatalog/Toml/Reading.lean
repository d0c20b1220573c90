import CodeCatalog.Text.Bytes

/-!
# Readers with alternatives

A reader takes a cursor in a text and gives a value and the cursor behind it. When it cannot, it
misses or fails: after a miss another reader may be tried at the same place, after a failure
nothing is tried any more. In both cases it tells the place where it noticed, which is what a
user is shown in the end.

## Main definitions

* `CodeCatalog.Toml.Cursor`, `Outcome`, `Reader` — places, answers, readers.
* `CodeCatalog.Toml.firm` — a reader that fails instead of missing.
* `CodeCatalog.Toml.orElse`, `maybe`, `repeated`, `separated` — alternatives and repetitions.
-/

namespace CodeCatalog.Toml

/-! ## Places and answers -/

/-- A place in a text: the number of bytes before it, and the characters behind it. -/
structure Cursor where
  offset : Nat
  rest : List Char
deriving Repr, BEq, DecidableEq, Inhabited

namespace Cursor

/-- The begin of a text. -/
def ofText (text : String) : Cursor := ⟨0, text.toList⟩

/-- The cursor some characters further. -/
def drop (n : Nat) (c : Cursor) : Cursor :=
  ⟨c.offset + Text.byteSize (c.rest.take n), c.rest.drop n⟩

/-- The cursor one character further. -/
def advance (c : Cursor) : Cursor := c.drop 1

end Cursor

/-- A part of a text: the number of bytes before its begin and before its end. -/
structure Span where
  start : Nat
  stop : Nat
deriving Repr, BEq, DecidableEq, Inhabited

/-- The answer of a reader. -/
inductive Outcome (α : Type) where
  | done (value : α) (next : Cursor)
  /-- Nothing was found, but another reader may find something. -/
  | miss (place : Cursor)
  /-- The text is malformed. -/
  | fail (place : Cursor)
deriving Repr, Inhabited

/-- Goes on behind a value. -/
def Outcome.andThen (o : Outcome α) (next : α → Cursor → Outcome β) : Outcome β :=
  match o with
  | .done a c => next a c
  | .miss c => .miss c
  | .fail c => .fail c

/-- Reads something at a cursor. -/
def Reader (α : Type) : Type := Cursor → Outcome α

instance : Monad Reader where
  pure a := fun c => .done a c
  bind r next := fun c => (r c).andThen fun a c => next a c

/-! ## Characters -/

/-- Reads a character of a kind. -/
def charWhere (p : Char → Bool) : Reader Char := fun c =>
  match c.rest with
  | x :: _ => if p x then .done x c.advance else .miss c
  | [] => .miss c

/-- Reads a certain character. -/
def symbol (x : Char) : Reader Char := charWhere (· == x)

/-- Reads a certain text, or nothing of it. -/
def literal (xs : List Char) : Reader (List Char) := fun c =>
  if c.rest.take xs.length = xs then .done xs (c.drop xs.length) else .miss c

/-- Reads as many characters of a kind as there are. -/
def charsWhere (p : Char → Bool) : Reader (List Char) := fun c =>
  let xs := c.rest.takeWhile p
  .done xs (c.drop xs.length)

/-- Reads characters of a kind, at least one. -/
def someWhere (p : Char → Bool) : Reader (List Char) := fun c =>
  let xs := c.rest.takeWhile p
  if xs.isEmpty then .miss c else .done xs (c.drop xs.length)

/-- Reads as many characters of a kind as there are, but not more than a number. -/
def upTo (n : Nat) (p : Char → Bool) : Reader (List Char) := fun c =>
  let xs := (c.rest.take n).takeWhile p
  .done xs (c.drop xs.length)

/-- Reads a number of characters of a kind. -/
def exactly (n : Nat) (p : Char → Bool) : Reader (List Char) := fun c =>
  let xs := (c.rest.take n).takeWhile p
  if xs.length = n then .done xs (c.drop n) else .miss c

/-- Reads nothing, at the end of the text. -/
def atEnd : Reader Unit := fun c => if c.rest.isEmpty then .done () c else .miss c

/-! ## Misses and failures -/

/-- A reader that fails where another one misses. -/
def firm (r : Reader α) : Reader α := fun c =>
  match r c with
  | .miss place => .fail place
  | answer => answer

/-- A reader that fails at its begin where another one misses. -/
def demand (r : Reader α) : Reader α := fun c =>
  match r c with
  | .miss _ => .fail c
  | answer => answer

/-- Tries a second reader where the first one misses. -/
def orElse (r s : Reader α) : Reader α := fun c =>
  match r c with
  | .miss _ => s c
  | answer => answer

/-- Reads something, if it is there. -/
def maybe (r : Reader α) : Reader (Option α) := fun c =>
  match r c with
  | .done a next => .done (some a) next
  | .miss _ => .done none c
  | .fail place => .fail place

/-- Reads something without going on. -/
def peek (r : Reader α) : Reader Unit := fun c =>
  match r c with
  | .done _ _ => .done () c
  | .miss _ => .miss c
  | .fail _ => .fail c

/-- Reads something that has to be acceptable; what is not counts as a miss at its begin. -/
def checked (r : Reader α) (accept : α → Option β) : Reader β := fun c =>
  match r c with
  | .done a next => match accept a with
    | some b => .done b next
    | none => .miss c
  | .miss place => .miss place
  | .fail place => .fail place

/-- Reads something, with the part of the text it takes. -/
def spanned (r : Reader α) : Reader (α × Span) := fun c =>
  match r c with
  | .done a next => .done (a, ⟨c.offset, next.offset⟩) next
  | .miss place => .miss place
  | .fail place => .fail place

/-- Reads something, and gives its characters. -/
def textOf (r : Reader α) : Reader (List Char) := fun c =>
  match r c with
  | .done _ next => .done (c.rest.take (c.rest.length - next.rest.length)) next
  | .miss place => .miss place
  | .fail place => .fail place

/-! ## Repetitions

Every round takes at least one character, so the characters that are left bound the rounds. -/

/-- Reads something at most `rounds` times, as often as it is there. -/
def repeatedWithin (r : Reader α) : (rounds : Nat) → Reader (List α)
  | 0 => fun c => .done [] c
  | rounds + 1 => fun c =>
    match r c with
    | .miss _ => .done [] c
    | .fail place => .fail place
    | .done a next => (repeatedWithin r rounds next).andThen fun as c => .done (a :: as) c

/-- Reads something as often as it is there. -/
def repeated (r : Reader α) : Reader (List α) := fun c => repeatedWithin r (c.rest.length + 1) c

/-- Reads something as often as it is there, at least once. -/
def repeatedOnce (r : Reader α) : Reader (List α) := do
  let a ← r
  let as ← repeated r
  return a :: as

/-- Reads more items, each behind a separator; a separator without an item is left standing. -/
def separated (separator : Reader β) (r : Reader α) : Reader (List α) :=
  repeated do
    let _ ← separator
    r

/-- Reads items with separators between them, at least one. -/
def separatedOnce (separator : Reader β) (r : Reader α) : Reader (List α) := do
  let a ← r
  let as ← separated separator r
  return a :: as

/-- Reads items with separators between them, if there are any. -/
def separatedMaybe (separator : Reader β) (r : Reader α) : Reader (List α) := do
  match ← maybe r with
  | none => return []
  | some a =>
    let as ← separated separator r
    return a :: as

end CodeCatalog.Toml
