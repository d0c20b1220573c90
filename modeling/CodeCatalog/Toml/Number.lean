import CodeCatalog.Number.Binary64
import CodeCatalog.Toml.Text

/-!
# Numbers and dates in settings files

Whole numbers have 64 bits and a sign, and are written in base ten, sixteen, eight or two; all
other numbers are floating-point numbers. Underscores may stand between digits. Of dates and
times only the form matters here.

## Main definitions

* `CodeCatalog.Toml.integer` — whole numbers.
* `CodeCatalog.Toml.float` — floating-point numbers.
* `CodeCatalog.Toml.moment` — dates and times.
-/

namespace CodeCatalog.Toml

/-! ## Digits -/

/-- Reads a digit. -/
def digit : Reader Char := charWhere Char.isDigit

/-- Reads more digits, with single underscores between them. -/
def moreDigits (isDigit : Char → Bool) : Reader Unit := do
  let _ ← repeated <| orElse (charWhere isDigit) do
    let _ ← symbol '_'
    firm (charWhere isDigit)

/-- Reads digits, with single underscores between them. -/
def digits (isDigit : Char → Bool) : Reader Unit := do
  let _ ← charWhere isDigit
  moreDigits isDigit

/-- Reads a sign. -/
def sign : Reader Char := charWhere fun x => x == '+' || x == '-'

/-- Reads the characters of a whole number in base ten; it does not begin with a zero unless it
is one. -/
def decimalText : Reader (List Char) := textOf do
  let _ ← maybe sign
  orElse
    (do
      let _ ← charWhere fun x => x.isDigit && x != '0'
      moreDigits Char.isDigit)
    (do let _ ← digit)

/-! ## Whole numbers -/

/-- The whole number with a sign, if 64 bits are enough for it. -/
def wholeOf? (negative : Bool) (n : Nat) : Option Int :=
  if negative then (if n ≤ 9223372036854775808 then some (-(n : Int)) else none)
  else (if n < 9223372036854775808 then some (n : Int) else none)

/-- The whole number that some characters stand for. -/
def wholeOfText? (text : List Char) : Option Int :=
  match text with
  | '-' :: ds => wholeOf? true (numberOf 10 ds)
  | ds => wholeOf? false (numberOf 10 ds)

/-- Reads a whole number behind the mark of its base. -/
def basedInteger (mark : Char) (base : Nat) (isDigit : Char → Bool) : Reader Int :=
  firm <| checked
    (do
      let _ ← literal ['0', mark]
      textOf (firm (digits isDigit)))
    fun ds => wholeOf? false (numberOf base ds)

/-- Reads a whole number. -/
def integer : Reader Int := fun c =>
  match c.rest with
  | '0' :: 'x' :: _ => basedInteger 'x' 16 isHexDigit c
  | '0' :: 'o' :: _ => basedInteger 'o' 8 (fun x => '0' ≤ x && x ≤ '7') c
  | '0' :: 'b' :: _ => basedInteger 'b' 2 (fun x => x == '0' || x == '1') c
  | _ =>
    match decimalText c with
    | .done text next => match wholeOfText? text with
      | some n => .done n next
      | none => .fail c
    | .miss place => .miss place
    | .fail place => .fail place

/-! ## Floating-point numbers -/

/-- Reads the exponent of a number. -/
def exponentPart : Reader Unit := do
  let _ ← charWhere fun x => x == 'e' || x == 'E'
  let _ ← maybe sign
  firm (digits Char.isDigit)

/-- Reads the fraction of a number. -/
def fractionPart : Reader Unit := do
  let _ ← symbol '.'
  firm (digits Char.isDigit)

/-- Reads the characters of a number with a fraction, an exponent or both. -/
def floatText : Reader (List Char) := textOf do
  let _ ← decimalText
  orElse exponentPart do
    fractionPart
    let _ ← maybe exponentPart

/-- The floating-point number that some characters stand for. -/
def floatOfText (text : List Char) : UInt64 :=
  let isMark (x : Char) : Bool := x == 'e' || x == 'E'
  let mantissa := text.takeWhile (!isMark ·)
  let exponentText := (text.dropWhile (!isMark ·)).drop 1
  let whole := mantissa.takeWhile (· != '.')
  let fraction := (mantissa.dropWhile (· != '.')).filter Char.isDigit
  let shift : Int := numberOf 10 exponentText
  let power : Int := (if exponentText.head? == some '-' then -shift else shift) - fraction.length
  Binary64.nearest (text.head? == some '-') ⟨numberOf 10 (whole ++ fraction), power⟩

/-- The bits of infinity. -/
def infinity : UInt64 := 0x7FF0000000000000

/-- The bits of what is no number. -/
def notANumber : UInt64 := 0x7FF8000000000000

/-- Reads the names of infinity and of what is no number. -/
def floatName : Reader UInt64 :=
  orElse (do let _ ← literal ['i', 'n', 'f']; return infinity)
    (do let _ ← literal ['n', 'a', 'n']; return notANumber)

/-- Reads a floating-point number. Too large a number is refused, unless it is negative. -/
def float : Reader UInt64 := fun c =>
  match floatText c with
  | .done text next =>
    let bits := floatOfText text
    if bits = infinity then .fail c else .done bits next
  | .fail place => .fail place
  | .miss _ => signedName c
where
  /-- A name with or without a sign. -/
  signedName : Reader UInt64 := do
    let s ← maybe sign
    let bits ← floatName
    return if s == some '-' then bits + 0x8000000000000000 else bits

/-! ## Dates and times -/

/-- Reads a number with a fixed count of digits, within limits. -/
def fixedNumber (count low high : Nat) : Reader Nat :=
  checked (exactly count Char.isDigit) fun ds =>
    let n := numberOf 10 ds
    if low ≤ n ∧ n ≤ high then some n else none

/-- The number of days in a month. -/
def daysIn (year month : Nat) : Nat :=
  if month = 2 then
    if year % 4 = 0 ∧ (year % 100 ≠ 0 ∨ year % 400 = 0) then 29 else 28
  else if month = 4 ∨ month = 6 ∨ month = 9 ∨ month = 11 then 30
  else 31

/-- Reads a date. -/
def date : Reader Unit := do
  let year ← fixedNumber 4 0 9999
  let _ ← symbol '-'
  let month ← firm (fixedNumber 2 1 12)
  let _ ← firm (symbol '-')
  let _ ← firm (checked (fixedNumber 2 1 31) fun day =>
    if day ≤ daysIn year month then some day else none)

/-- Reads hours and minutes. -/
def minuteTime : Reader Unit := do
  let _ ← fixedNumber 2 0 23
  let _ ← symbol ':'
  let _ ← fixedNumber 2 0 59

/-- Reads a time of the day. -/
def time : Reader Unit := do
  let _ ← fixedNumber 2 0 23
  let _ ← symbol ':'
  firm do
    let _ ← fixedNumber 2 0 59
    let _ ← symbol ':'
    let _ ← fixedNumber 2 0 60
    let _ ← maybe do
      let _ ← symbol '.'
      someWhere Char.isDigit

/-- Reads the distance of a time from the standard one. -/
def timeOffset : Reader Unit :=
  orElse (do let _ ← charWhere fun x => x == 'Z' || x == 'z') do
    let _ ← sign
    firm minuteTime

/-- Reads a date, a time, or both. -/
def moment : Reader Unit :=
  orElse
    (do
      date
      let _ ← maybe do
        let _ ← charWhere fun x => x == 'T' || x == 't' || x == ' '
        time
        let _ ← maybe timeOffset)
    time

end CodeCatalog.Toml
