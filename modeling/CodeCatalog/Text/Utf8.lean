/-!
# Bytes as text

Files hold bytes. Those that are text are decoded; for those that are not, the first fault is
named.

## Main definitions

* `CodeCatalog.Text.Utf8Fault` — where bytes stop being text.
* `CodeCatalog.Text.decode` — the text of bytes.
-/

namespace CodeCatalog.Text

/-- The place where bytes stop being text. -/
structure Utf8Fault where
  /-- The number of bytes before the fault. -/
  index : Nat
  /-- The number of bytes that cannot be read; unknown when the bytes end too early. -/
  length : Option Nat
deriving Repr, BEq, DecidableEq, Inhabited

/-- The text of a fault. -/
def Utf8Fault.message (f : Utf8Fault) : String :=
  match f.length with
  | some n => s!"invalid utf-8 sequence of {n} bytes from index {f.index}"
  | none => s!"incomplete utf-8 byte sequence from index {f.index}"

/-- The ranges of the bytes that continue a character which begins with a byte; `none` when no
character begins with it. -/
def continuations (b : UInt8) : Option (List (UInt8 × UInt8)) :=
  let tail : UInt8 × UInt8 := (0x80, 0xBF)
  if b ≤ 0x7F then some []
  else if 0xC2 ≤ b ∧ b ≤ 0xDF then some [tail]
  else if b = 0xE0 then some [(0xA0, 0xBF), tail]
  else if b = 0xED then some [(0x80, 0x9F), tail]
  else if 0xE1 ≤ b ∧ b ≤ 0xEF then some [tail, tail]
  else if b = 0xF0 then some [(0x90, 0xBF), tail, tail]
  else if 0xF1 ≤ b ∧ b ≤ 0xF3 then some [tail, tail, tail]
  else if b = 0xF4 then some [(0x80, 0x8F), tail, tail]
  else none

/-- Finds the first fault. `start` is the index of the character under way, `count` the number
of its bytes read, `expected` the ranges of those to come. -/
def findFault (start count : Nat) (expected : List (UInt8 × UInt8)) :
    List UInt8 → Option Utf8Fault
  | [] => if expected.isEmpty then none else some ⟨start, none⟩
  | b :: bs =>
    match expected with
    | [] =>
      match continuations b with
      | some ranges => findFault (start + count) 1 ranges bs
      | none => some ⟨start + count, some 1⟩
    | (low, high) :: more =>
      if low ≤ b ∧ b ≤ high then findFault start (count + 1) more bs
      else some ⟨start, some count⟩

/-- The text of bytes, or the first place where they are no text. -/
def decode (bytes : ByteArray) : Except Utf8Fault String :=
  match String.fromUTF8? bytes with
  | some s => .ok s
  | none => .error ((findFault 0 0 [] bytes.toList).getD ⟨0, none⟩)

/-- The mark that some programs put at the begin of a text. -/
def byteOrderMark : Char := '\uFEFF'

/-- A text without one mark at its begin. -/
def dropMark (s : String) : String :=
  match s.toList with
  | c :: cs => if c = byteOrderMark then String.ofList cs else s
  | [] => s

end CodeCatalog.Text
