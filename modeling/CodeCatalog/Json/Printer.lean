import CodeCatalog.Json.Value

/-!
# Writing data

Values are written without any blanks, or with every item on a line of its own.

## Main definitions

* `CodeCatalog.Json.Layout` — the blanks between the parts of a value.
* `CodeCatalog.Json.Value.write` — a value in a layout.
* `CodeCatalog.Json.Value.text` — its text, without blanks or indented by two per level.
-/

namespace CodeCatalog.Json

/-! ## Scalars -/

/-- A hexadecimal digit. -/
def hexDigit (n : Nat) : Char := if n < 10 then Char.ofNat (48 + n) else Char.ofNat (87 + n)

/-- A character inside a string. -/
def escapeChar (c : Char) : List Char :=
  if c = '"' then ['\\', '"']
  else if c = '\\' then ['\\', '\\']
  else if c.toNat = 8 then ['\\', 'b']
  else if c.toNat = 9 then ['\\', 't']
  else if c.toNat = 10 then ['\\', 'n']
  else if c.toNat = 12 then ['\\', 'f']
  else if c.toNat = 13 then ['\\', 'r']
  else if c.toNat < 32 then
    ['\\', 'u', '0', '0', hexDigit (c.toNat / 16), hexDigit (c.toNat % 16)]
  else [c]

/-- A string. -/
def stringText (s : String) : List Char := '"' :: (s.toList.flatMap escapeChar ++ ['"'])

/-- The digits of a whole number. -/
def natText (n : Nat) : List Char := Nat.toDigits 10 n

/-- A number. -/
def Number.text : Number → List Char
  | .natural n => natText n
  | .negative n => '-' :: natText n
  | .float bits => (Binary64.scientific bits).toList

/-! ## Layouts -/

/-- How arrays and objects are laid out; blanks alone may stand between their parts. -/
structure Layout where
  /-- What stands in front of an item, or of the bracket behind the last item, at a level. -/
  gap : Nat → List Char
  /-- What stands between a colon and a value. -/
  pad : List Char
  gap_blank : ∀ level, ∀ x ∈ gap level, isBlank x
  pad_blank : ∀ x ∈ pad, isBlank x

/-- Without blanks. -/
def Layout.compact : Layout where
  gap _ := []
  pad := []
  gap_blank := by simp
  pad_blank := by simp

/-- Every item on a line of its own, indented by two blanks per level. -/
def Layout.indented : Layout where
  gap level := '\n' :: List.replicate (2 * level) ' '
  pad := [' ']
  gap_blank := by simp [isBlank]
  pad_blank := by simp [isBlank]

/-- What stands in front of an item: a comma, unless it is the first, and the gap. -/
def Layout.lead (l : Layout) (level : Nat) (isFirst : Bool) : List Char :=
  (if isFirst then [] else [',']) ++ l.gap level

/-- What stands behind the items: a gap, if there are any. -/
def Layout.tail (l : Layout) (level : Nat) (isEmpty : Bool) : List Char :=
  if isEmpty then [] else l.gap level

mutual

/-- A value in a layout. -/
def Value.write (l : Layout) (level : Nat) : Value → List Char
  | .null => ['n', 'u', 'l', 'l']
  | .bool true => ['t', 'r', 'u', 'e']
  | .bool false => ['f', 'a', 'l', 's', 'e']
  | .number n => n.text
  | .string s => stringText s
  | .array items => '[' :: (writeItems l (level + 1) true items ++
      (l.tail level items.isEmpty ++ [']']))
  | .object members => '\x7b' :: (writeMembers l (level + 1) true members ++
      (l.tail level members.isEmpty ++ ['\x7d']))

/-- The items of an array. -/
def writeItems (l : Layout) (level : Nat) (isFirst : Bool) : List Value → List Char
  | [] => []
  | v :: vs => l.lead level isFirst ++ (v.write l level ++ writeItems l level false vs)

/-- The members of an object. -/
def writeMembers (l : Layout) (level : Nat) (isFirst : Bool) : List (String × Value) → List Char
  | [] => []
  | (k, v) :: ms => l.lead level isFirst ++ (stringText k ++ (':' :: (l.pad ++
      (v.write l level ++ writeMembers l level false ms))))

end

/-- The text of a value. -/
def Value.text (v : Value) (indented : Bool) : String :=
  String.ofList (v.write (if indented then .indented else .compact) 0)

end CodeCatalog.Json
