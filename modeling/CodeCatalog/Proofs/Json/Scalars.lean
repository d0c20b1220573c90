import Mathlib.Order.Basic
import Mathlib.Order.Nat
import Mathlib.Data.Nat.Init
import Mathlib.Tactic.Lemma
import Mathlib.Tactic.SplitIfs
import CodeCatalog.Json.Printer
import CodeCatalog.Json.Reader

/-!
# Numbers and strings, written and read back

Readers leave the text behind what they read untouched. A number ends where something follows
that can stand behind a value, a string at its closing quote.

## Main definitions

* `CodeCatalog.Json.Delimits` — a text that can follow a value.

## Main results

* `CodeCatalog.Json.Cursor.skipBlanks_append` — blanks are skipped up to the next part of a text.
* `CodeCatalog.Json.numberBehindSign_natText` — the digits of a whole number are read as the
  number.
* `CodeCatalog.Json.stringFrom_escapeChar` — an escaped character is read as the character.
* `CodeCatalog.Json.string_stringText` — a written string is read as the string.
-/

namespace CodeCatalog.Json

/-! ## What stands between values -/

/-- Whether a text can follow a value: it is empty, or begins with a comma, a closing bracket or
a blank. -/
def Delimits (rest : List Char) : Prop :=
  ∀ x ∈ rest.head?, x = ',' ∨ x = ']' ∨ x = '\x7d' ∨ isBlank x

/-- The end of a text delimits a number. -/
lemma delimits_nil : Delimits [] := by simp [Delimits]

/-- A comma, a bracket, a brace or a blank delimits a number. -/
lemma delimits_cons {x : Char} {xs : List Char}
    (h : x = ',' ∨ x = ']' ∨ x = '\x7d' ∨ isBlank x) : Delimits (x :: xs) := by
  intro y hy
  obtain rfl : x = y := by simpa using hy
  exact h

/-- Blanks and then something that can follow a value can follow a value. -/
lemma Delimits.append_blanks {blanks rest : List Char} (hblanks : ∀ x ∈ blanks, isBlank x)
    (h : Delimits rest) : Delimits (blanks ++ rest) := by
  cases blanks with
  | nil => exact h
  | cons x xs => exact delimits_cons (Or.inr (Or.inr (Or.inr (hblanks x List.mem_cons_self))))

/-- A character that can follow a value continues no number. -/
lemma not_number_of_delimits {x : Char} {xs : List Char} (h : Delimits (x :: xs)) :
    x.isDigit = false ∧ x ≠ '.' ∧ (x.toLower == 'e') = false := by
  have hx := h x rfl
  simp only [isBlank, Bool.or_eq_true, beq_iff_eq] at hx
  rcases hx with rfl | rfl | rfl | ((rfl | rfl) | rfl) | rfl <;> decide

namespace Cursor

/-- Blanks are skipped up to the next part of a text. -/
lemma skipBlanks_append {blanks : List Char} (hblanks : ∀ x ∈ blanks, isBlank x)
    {x : Char} (hx : ¬ isBlank x) (before xs : List Char) :
    skipBlanks ⟨before, blanks ++ x :: xs⟩ = ⟨blanks.reverse ++ before, x :: xs⟩ := by
  unfold skipBlanks skip
  induction blanks generalizing before with
  | nil => simp [skipFrom, hx]
  | cons b bs ih =>
    have hb : isBlank b := hblanks b List.mem_cons_self
    have hbs := ih (fun y hy => hblanks y (List.mem_cons_of_mem b hy)) (b :: before)
    rw [List.cons_append, skipFrom, if_pos hb, hbs]
    simp

/-- Where no blank stands, none is skipped. -/
lemma skipBlanks_cons {x : Char} (hx : ¬ isBlank x) (before xs : List Char) :
    skipBlanks ⟨before, x :: xs⟩ = ⟨before, x :: xs⟩ := by
  simp [skipBlanks, skip, skipFrom, hx]

end Cursor

/-! ## Numbers -/

/-- The digits of a number are read to a number that is not smaller than at the begin. -/
lemma le_ofDigitChars (digits : List Char) (init : Nat) :
    init ≤ Nat.ofDigitChars 10 digits init := by
  rw [Nat.ofDigitChars_eq_ofDigitChars_zero]
  have hpow : init ≤ 10 ^ digits.length * init :=
    Nat.le_mul_of_pos_left init (Nat.pow_pos (by decide))
  omega

/-- Digits are read up to the first character that is none, as long as the number stays within
the limit.

**Proof sketch.** Induction on the digits. What has been read so far is at most the whole number
(`le_ofDigitChars`), so the limit is never passed on the way. -/
lemma digitsFrom_append {limit : Nat} {digits : List Char} (hdigits : ∀ x ∈ digits, x.isDigit)
    {rest : List Char} (hrest : Delimits rest) (number count : Nat) (before : List Char)
    (hlimit : Nat.ofDigitChars 10 digits number ≤ limit) :
    digitsFrom limit number count before (digits ++ rest) =
      (Nat.ofDigitChars 10 digits number, count + digits.length,
        ⟨digits.reverse ++ before, rest⟩) := by
  induction digits generalizing number count before with
  | nil =>
    cases rest with
    | nil => simp [digitsFrom]
    | cons x xs => simp [digitsFrom, (not_number_of_delimits hrest).1]
  | cons d ds ih =>
    have hd : d.isDigit := hdigits d List.mem_cons_self
    have hnext : Nat.ofDigitChars 10 (d :: ds) number =
        Nat.ofDigitChars 10 ds (number * 10 + digitValue d) := by
      rw [Nat.ofDigitChars_cons, Nat.mul_comm 10 number]
      rfl
    rw [hnext] at hlimit ⊢
    have hstep : number * 10 + digitValue d ≤ limit :=
      Nat.le_trans (le_ofDigitChars ds _) hlimit
    rw [List.cons_append, digitsFrom, if_pos ⟨hd, hstep⟩,
      ih (fun x hx => hdigits x (List.mem_cons_of_mem d hx)) _ _ _ hlimit]
    simp only [List.length_cons, List.reverse_cons, List.append_assoc, List.singleton_append,
      Prod.mk.injEq, and_true, true_and]
    omega

/-- A whole number is written in digits. -/
lemma isDigit_of_mem_natText {n : Nat} {x : Char} (hx : x ∈ natText n) : x.isDigit :=
  Nat.isDigit_of_mem_toDigits (by decide) (by decide) hx

/-- A whole number is written in at least one digit. -/
lemma natText_eq_cons (n : Nat) : ∃ x xs, natText n = x :: xs ∧ x.isDigit := by
  cases htext : natText n with
  | nil => exact absurd htext Nat.toDigits_ne_nil
  | cons x xs =>
    refine ⟨x, xs, rfl, isDigit_of_mem_natText (n := n) ?_⟩
    exact htext ▸ List.mem_cons_self

/-- The digits of a number above zero do not begin with a zero. -/
lemma head_natText_ne_zero {n : Nat} (hn : 0 < n) {x : Char} {xs : List Char}
    (h : natText n = x :: xs) : x ≠ '0' := by
  induction n using Nat.strong_induction_on generalizing xs with
  | _ n ih =>
    unfold natText at h ih
    by_cases hlt : n < 10
    · rw [Nat.toDigits_of_lt_base hlt] at h
      obtain ⟨rfl, -⟩ := List.cons.inj h
      intro hzero
      have hn0 := Nat.digitChar_eq_zero.mp hzero
      omega
    · rw [Nat.toDigits_of_base_le (by decide) (by omega)] at h
      cases hhigh : Nat.toDigits 10 (n / 10) with
      | nil => exact absurd hhigh Nat.toDigits_ne_nil
      | cons y ys =>
        rw [hhigh, List.cons_append] at h
        obtain ⟨rfl, -⟩ := List.cons.inj h
        exact ih (n / 10) (by omega) (by omega) hhigh

/-- Behind something that can follow a value no digit comes. -/
lemma digitNext_of_delimits {rest : List Char} (hrest : Delimits rest) (before : List Char) :
    digitNext ⟨before, rest⟩ = false := by
  cases rest with
  | nil => rfl
  | cons x xs => exact (not_number_of_delimits hrest).1

/-- The digits of a whole number are read as the number, and what follows decides the rest.

**Proof sketch.** Zero is a digit of its own, behind which no digit comes. Any other number
begins with another digit (`head_natText_ne_zero`), and all of its digits are read
(`digitsFrom_append`). -/
lemma numberBehindSign_natText {n : Nat} (hn : n ≤ maxNatural) {rest : List Char}
    (hrest : Delimits rest) (negative : Bool) (before : List Char) :
    ∃ before', numberBehindSign negative ⟨before, natText n ++ rest⟩ =
      behindWhole negative n ⟨before', rest⟩ := by
  rcases Nat.eq_zero_or_pos n with rfl | hpos
  · refine ⟨'0' :: before, ?_⟩
    have hdigit := digitNext_of_delimits hrest ('0' :: before)
    simp [numberBehindSign, natText, Cursor.advance, hdigit]
  · have hvalue : Nat.ofDigitChars 10 (natText n) 0 = n := Nat.ofDigitChars_ten_toDigits
    have hread : digitsFrom maxNatural 0 0 before (natText n ++ rest) =
        (n, (natText n).length, ⟨(natText n).reverse ++ before, rest⟩) := by
      rw [digitsFrom_append (fun x hx => isDigit_of_mem_natText hx) hrest 0 0 before
        (by rw [hvalue]; exact hn), hvalue, Nat.zero_add]
    obtain ⟨x, xs, htext, hdigit⟩ := natText_eq_cons n
    have hx : x ≠ '0' := head_natText_ne_zero hpos htext
    rw [htext, List.cons_append] at hread
    refine ⟨(x :: xs).reverse ++ before, ?_⟩
    simp only [numberBehindSign, htext, List.cons_append, hx, if_false, hdigit, if_true, hread]

/-- Behind the digits of a number without a fraction or an exponent the number ends. -/
lemma behindWhole_of_delimits {rest : List Char} (hrest : Delimits rest) (negative : Bool)
    (n : Nat) (before : List Char) :
    behindWhole negative n ⟨before, rest⟩ =
      if !negative then .ok (.natural n, ⟨before, rest⟩)
      else if n = 0 ∨ n > 9223372036854775808 then floatOf true n 0 ⟨before, rest⟩
      else .ok (.negative n, ⟨before, rest⟩) := by
  have hdigit := digitNext_of_delimits hrest before
  cases rest with
  | nil => simp [behindWhole, hdigit, letterNext]
  | cons x xs =>
    obtain ⟨-, hdot, he⟩ := not_number_of_delimits hrest
    unfold behindWhole
    rw [if_neg (by rw [hdigit]; decide)]
    split
    · rename_i heq
      exact absurd (List.cons.inj heq).1 hdot
    · rw [if_neg (by simp [letterNext, he])]

/-- A whole number is read as written. -/
lemma number_natText {n : Nat} (hn : n ≤ maxNatural) {rest : List Char} (hrest : Delimits rest)
    (before : List Char) :
    ∃ before', number ⟨before, natText n ++ rest⟩ = .ok (.natural n, ⟨before', rest⟩) := by
  obtain ⟨before', h⟩ := numberBehindSign_natText hn hrest false before
  refine ⟨before', ?_⟩
  rw [behindWhole_of_delimits hrest] at h
  rw [← h.trans (if_pos rfl)]
  unfold number
  split
  · rename_i xs heq
    -- no digit is a sign
    obtain ⟨x, xs', htext, hdigit⟩ := natText_eq_cons n
    rw [htext] at heq
    obtain ⟨rfl, -⟩ := List.cons.inj heq
    exact absurd hdigit (by decide)
  · rfl

/-- A negative number is read as written. -/
lemma number_negative {n : Nat} (hpos : 0 < n) (hn : n ≤ 9223372036854775808)
    {rest : List Char} (hrest : Delimits rest) (before : List Char) :
    ∃ before', number ⟨before, '-' :: (natText n ++ rest)⟩ =
      .ok (.negative n, ⟨before', rest⟩) := by
  have hmax : n ≤ maxNatural := Nat.le_trans hn (by decide)
  obtain ⟨before', h⟩ := numberBehindSign_natText hmax hrest true ('-' :: before)
  refine ⟨before', ?_⟩
  rw [behindWhole_of_delimits hrest, if_neg (by decide), if_neg (by omega)] at h
  exact h

/-! ## Strings -/

/-- A hexadecimal digit is read as its value. -/
lemma hexValue?_hexDigit : ∀ n < 16, hexValue? (hexDigit n) = some n := by decide

/-- A character that is written as four hexadecimal digits is read back from them. -/
lemma hexValue4?_control {c : Char} (hc : c.toNat < 32) :
    hexValue4? '0' '0' (hexDigit (c.toNat / 16)) (hexDigit (c.toNat % 16)) = some c.toNat := by
  have hzero : hexValue? '0' = some 0 := by decide
  have hhigh := hexValue?_hexDigit (c.toNat / 16) (by omega)
  have hlow := hexValue?_hexDigit (c.toNat % 16) (by omega)
  simp only [hexValue4?, hzero, hhigh, hlow, Option.some.injEq]
  omega

/-- A short escape is read as its character. -/
lemma stringFrom_short (strict : Bool) (taken before : List Char) {y z : Char}
    (hy : y ≠ 'u') (hz : shortEscape? y = some z) (rest : List Char) :
    stringFrom strict taken before ('\\' :: y :: rest) =
      stringFrom strict (z :: taken) (y :: '\\' :: before) rest := by
  rw [stringFrom.eq_def]
  simp only [Char.reduceEq, if_false, if_true, hy, hz]

/-- Four hexadecimal digits that are no half of a pair are read as their character. -/
lemma stringFrom_digits (strict : Bool) (taken before : List Char) {a b c d : Char} {n : Nat}
    (hn : hexValue4? a b c d = some n) (hhalf : n < 0xD800) (rest : List Char) :
    stringFrom strict taken before ('\\' :: 'u' :: a :: b :: c :: d :: rest) =
      stringFrom strict (Char.ofNat n :: taken) (d :: c :: b :: a :: 'u' :: '\\' :: before)
        rest := by
  have hlow : isLowHalf n = false := by simp [isLowHalf]; omega
  have hhigh : isHighHalf n = false := by simp [isHighHalf]; omega
  rw [stringFrom.eq_def]
  simp only [Char.reduceEq, if_false, if_true, hn, hlow, hhigh, Bool.and_false, Bool.false_eq_true]

/-- A character that needs no escape is read as itself. -/
lemma stringFrom_plain (strict : Bool) (taken before : List Char) {x : Char} (hquote : x ≠ '"')
    (hescape : x ≠ '\\') (hcontrol : ¬ x.toNat < 32) (rest : List Char) :
    stringFrom strict taken before (x :: rest) =
      stringFrom strict (x :: taken) (x :: before) rest := by
  rw [stringFrom.eq_def]
  simp only [hquote, hescape, hcontrol, if_false]

/-- An escaped character is read as the character.

**Proof sketch.** The cases are those of `escapeChar`: seven short escapes, the other control
characters as four digits, which are no half of a pair, and a character that stands for
itself. -/
lemma stringFrom_escapeChar (strict : Bool) (taken before : List Char) (c : Char)
    (rest : List Char) :
    ∃ before', stringFrom strict taken before (escapeChar c ++ rest) =
      stringFrom strict (c :: taken) before' rest := by
  have hofNat : ∀ n, c.toNat = n → Char.ofNat n = c := fun n hn => hn ▸ Char.ofNat_toNat c
  unfold escapeChar
  split_ifs with hquote hescape hb ht hn hf hr hcontrol
  · subst hquote
    exact ⟨_, stringFrom_short strict taken before (by decide) rfl rest⟩
  · subst hescape
    exact ⟨_, stringFrom_short strict taken before (by decide) rfl rest⟩
  · rw [← hofNat 8 hb]
    exact ⟨_, stringFrom_short strict taken before (by decide) rfl rest⟩
  · rw [← hofNat 9 ht]
    exact ⟨_, stringFrom_short strict taken before (by decide) rfl rest⟩
  · rw [← hofNat 10 hn]
    exact ⟨_, stringFrom_short strict taken before (by decide) rfl rest⟩
  · rw [← hofNat 12 hf]
    exact ⟨_, stringFrom_short strict taken before (by decide) rfl rest⟩
  · rw [← hofNat 13 hr]
    exact ⟨_, stringFrom_short strict taken before (by decide) rfl rest⟩
  · have hdigits := stringFrom_digits strict taken before (hexValue4?_control hcontrol)
      (by omega) rest
    rw [hofNat _ rfl] at hdigits
    exact ⟨_, hdigits⟩
  · exact ⟨_, stringFrom_plain strict taken before hquote hescape hcontrol rest⟩

/-- The characters of a string are read up to its closing quote. -/
lemma stringFrom_flatMap_escapeChar (strict : Bool) (s taken before rest : List Char) :
    ∃ before', stringFrom strict taken before (s.flatMap escapeChar ++ '"' :: rest) =
      .ok (String.ofList (taken.reverse ++ s), ⟨before', rest⟩) := by
  induction s generalizing taken before with
  | nil =>
    refine ⟨'"' :: before, ?_⟩
    rw [List.flatMap_nil, List.nil_append, stringFrom.eq_def, List.append_nil]
    simp only [if_true]
  | cons c s ih =>
    obtain ⟨before₁, hc⟩ := stringFrom_escapeChar strict taken before c
      (s.flatMap escapeChar ++ '"' :: rest)
    obtain ⟨before₂, hs⟩ := ih (c :: taken) before₁
    refine ⟨before₂, ?_⟩
    rw [List.flatMap_cons, List.append_assoc, hc, hs]
    simp

/-- **A written string is read as the string.** -/
lemma string_stringText (strict : Bool) (s : String) (before rest : List Char) :
    ∃ before', string strict ⟨before, stringText s ++ rest⟩ = .ok (s, ⟨before', rest⟩) := by
  obtain ⟨before', h⟩ := stringFrom_flatMap_escapeChar strict s.toList [] ('"' :: before) rest
  refine ⟨before', ?_⟩
  simpa [string, stringText, Cursor.advance] using h

end CodeCatalog.Json
