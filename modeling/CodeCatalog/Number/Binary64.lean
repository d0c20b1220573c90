/-!
# Floating-point numbers

Numbers of 64 bits in base two, given by their bits. The text of one has the fewest decimal
digits that lead back to it.

## Main definitions

* `CodeCatalog.Binary64.shortest` — the fewest digits that lead back to a number.
* `CodeCatalog.Binary64.positional` — a number without exponent.
* `CodeCatalog.Binary64.scientific` — a number with an exponent if it is very large or small.
* `CodeCatalog.Binary64.ofParts?` — the number of digits and a power of ten, by scaling.
* `CodeCatalog.Binary64.nearest` — the number next to a decimal number.
-/

namespace CodeCatalog.Binary64

/-- A power of two. -/
def twoTo (n : Nat) : Nat := Nat.pow 2 n

/-- A power of ten. -/
def tenTo (n : Nat) : Nat := Nat.pow 10 n

/-! ## Taking a number apart -/

/-- Whether the sign is negative. -/
def isNegative (bits : UInt64) : Bool := bits.toNat ≥ twoTo 63

/-- The bits behind the exponent. -/
def fraction (bits : UInt64) : Nat := bits.toNat % twoTo 52

/-- The bits of the exponent. -/
def biasedExponent (bits : UInt64) : Nat := bits.toNat / twoTo 52 % twoTo 11

/-- The significand: a number is its significand times a power of two. -/
def significand (bits : UInt64) : Nat :=
  if biasedExponent bits = 0 then fraction bits else fraction bits + twoTo 52

/-- The power of two that goes with the significand. -/
def exponent (bits : UInt64) : Int :=
  if biasedExponent bits = 0 then -1074 else (biasedExponent bits : Int) - 1075

/-! ## Digits -/

/-- A decimal number: digits times a power of ten. -/
structure Decimal where
  digits : Nat
  power : Int
deriving Repr, BEq, DecidableEq, Inhabited

/-- Four times a number and the ends of the interval of numbers that round to it, all over one
denominator. The ends belong to the interval when the significand is even. -/
structure Interval where
  value : Nat
  low : Nat
  high : Nat
  denominator : Nat
  closed : Bool
deriving Repr, BEq, DecidableEq, Inhabited

/-- The interval of a number. Below a power of two the neighbour is only half as far. -/
def interval (bits : UInt64) : Interval :=
  let m := significand bits
  let q := exponent bits - 2
  let scale := twoTo q.toNat
  let gapBelow := if fraction bits = 0 ∧ biasedExponent bits > 1 then 1 else 2
  ⟨4 * m * scale, (4 * m - gapBelow) * scale, (4 * m + 2) * scale, twoTo (-q).toNat, m % 2 = 0⟩

/-- Whether a fraction lies in an interval. -/
def Interval.contains (i : Interval) (numerator : Nat) : Bool :=
  if i.closed then i.low ≤ numerator && numerator ≤ i.high
  else i.low < numerator && numerator < i.high

/-- An interval of numbers some times as large. -/
def Interval.times (i : Interval) (factor : Nat) : Interval :=
  { i with value := i.value * factor, low := i.low * factor, high := i.high * factor }

/-- Whether the lower one of two neighbouring multiples is to be taken: it is nearer, or both are
equally near and it is even. -/
def prefersBelow (value unit : Nat) : Bool :=
  2 * (value % unit) < unit || (2 * (value % unit) == unit && value / unit % 2 == 0)

/-- Which multiple of a unit in the interval is next to its value. -/
def Interval.nearestMultiple? (i : Interval) (unit : Nat) : Option Nat :=
  let below := i.value / unit
  let hasBelow := below > 0 && i.contains (below * unit)
  let hasAbove := i.contains ((below + 1) * unit)
  if hasBelow && (!hasAbove || prefersBelow i.value unit) then some below
  else if hasAbove then some (below + 1)
  else none

/-- Which multiple of a power of ten in the interval is next to its value. -/
def Interval.nearest? (i : Interval) (power : Int) : Option Nat :=
  (i.times (tenTo (-power).toNat)).nearestMultiple? (i.denominator * tenTo power.toNat)

/-- Tries ever smaller powers of ten. -/
def search (i : Interval) : Nat → Int → Decimal
  | 0, _ => ⟨0, 0⟩
  | fuel + 1, power =>
    match i.nearest? power with
    | some digits => ⟨digits, power⟩
    | none => search i fuel (power - 1)

/-- The fewest digits that lead back to a number. The powers of ten between the greatest number
and the least one are tried from above. -/
def shortest (bits : UInt64) : Decimal :=
  if significand bits = 0 then ⟨0, 0⟩ else search (interval bits) 640 309

/-! ## Texts -/

/-- The digits of a number. -/
def digitChars (n : Nat) : List Char := Nat.toDigits 10 n

/-- Zeros. -/
def zeros (n : Nat) : List Char := List.replicate n '0'

/-- A decimal number without exponent; `mark` follows a whole number. -/
def Decimal.positional (d : Decimal) (mark : List Char) : List Char :=
  let cs := digitChars d.digits
  let point : Int := cs.length + d.power
  if d.power ≥ 0 then cs ++ zeros d.power.toNat ++ mark
  else if point > 0 then cs.take point.toNat ++ ['.'] ++ cs.drop point.toNat
  else ['0', '.'] ++ zeros (-point).toNat ++ cs

/-- The sign of a number. -/
def sign (bits : UInt64) : List Char := if isNegative bits then ['-'] else []

/-- Whether a number is infinite. -/
def isInfinite (bits : UInt64) : Bool := biasedExponent bits == 2047 && fraction bits == 0

/-- Whether something is no number at all. -/
def isNaN (bits : UInt64) : Bool := biasedExponent bits == 2047 && fraction bits != 0

/-- A number without exponent; a whole number ends in a point and a zero. -/
def positional (bits : UInt64) : String :=
  if isNaN bits then "NaN"
  else if isInfinite bits then String.ofList (sign bits ++ ['i', 'n', 'f'])
  else String.ofList (sign bits ++ (shortest bits).positional ['.', '0'])

/-- The exponent of a decimal number in scientific notation. -/
def scientificExponent (n : Int) : List Char :=
  'e' :: (if n < 0 then '-' :: digitChars (-n).toNat else '+' :: digitChars n.toNat)

/-- A number as it stands in data: with an exponent from seventeen digits before the point or
five zeros behind it. -/
def scientific (bits : UInt64) : String :=
  let d := shortest bits
  let cs := digitChars d.digits
  let point : Int := cs.length + d.power
  let body :=
    if -5 < point ∧ point ≤ 16 then d.positional ['.', '0']
    else
      let fractional := match cs with
        | c :: c' :: rest => c :: '.' :: c' :: rest
        | cs => cs
      fractional ++ scientificExponent (point - 1)
  String.ofList (sign bits ++ body)

/-! ## From digits -/

/-- A power of ten as a floating-point number. -/
def powerOfTen (n : Nat) : Float := Float.ofScientific 1 false n

/-- The greatest power of ten that is a number. -/
def maxPower : Nat := 308

/-- Scales a number by a power of ten, in several steps if the power is very small. -/
def scale : Nat → Float → Int → Option Float
  | 0, f, _ => some f
  | steps + 1, f, power =>
    if power.natAbs ≤ maxPower then
      if power ≥ 0 then
        let f := f * powerOfTen power.natAbs
        if f.isInf then none else some f
      else some (f / powerOfTen power.natAbs)
    else if f == 0 then some f
    else if power ≥ 0 then none
    else scale steps (f / powerOfTen maxPower) (power + maxPower)

/-- The number of digits and a power of ten; `none` when it is too large. -/
def ofParts? (negative : Bool) (digits : UInt64) (power : Int) : Option UInt64 :=
  match scale 8 digits.toFloat power with
  | some f => some (if negative then (-f).toBits else f.toBits)
  | none => none

/-! ## Rounding -/

/-- A quotient, rounded to the next whole number; a half goes to the even one. -/
def roundDiv (numerator denominator : Nat) : Nat :=
  let below := numerator / denominator
  let rest := 2 * (numerator % denominator)
  if rest < denominator ∨ (rest = denominator ∧ below % 2 = 0) then below else below + 1

/-- The bits of a significand below two to the power of 53 and its power of two. -/
def assemble (m : Nat) (q : Int) : Nat :=
  if m < twoTo 52 then m
  else if q + 1075 ≥ 2047 then 2047 * twoTo 52
  else (q + 1075).toNat * twoTo 52 + (m - twoTo 52)

/-- The bits of the positive number next to a quotient. The power of two is the one that leaves
53 bits for the significand, but not below the least one. -/
def nearestQuotient (numerator denominator : Nat) : Nat :=
  let guess : Int := (numerator.log2 : Int) - (denominator.log2 : Int) - 53
  let scaled (q : Int) : Nat × Nat := (numerator * twoTo (-q).toNat, denominator * twoTo q.toNat)
  let fits (q : Int) : Bool := (scaled q).1 / (scaled q).2 < twoTo 53
  let q := max (if fits guess then guess else guess + 1) (-1074)
  let m := roundDiv (scaled q).1 (scaled q).2
  if m = twoTo 53 then assemble (twoTo 52) (q + 1) else assemble m q

/-- The number next to a decimal number. Powers of ten far outside the range of numbers lead to
zero or to infinity at once. -/
def nearest (negative : Bool) (d : Decimal) : UInt64 :=
  let size : Int := (digitChars d.digits).length + d.power
  let bits :=
    if d.digits = 0 ∨ size < -400 then 0
    else if size > 400 then 2047 * twoTo 52
    else nearestQuotient (d.digits * tenTo d.power.toNat) (tenTo (-d.power).toNat)
  (if negative then bits + twoTo 63 else bits).toUInt64

end CodeCatalog.Binary64
