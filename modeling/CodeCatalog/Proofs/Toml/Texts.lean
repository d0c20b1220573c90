import Mathlib.Data.List.TakeWhile
import Mathlib.Tactic.SplitIfs
import CodeCatalog.Proofs.Toml.Reads
import CodeCatalog.Toml.Printer
import CodeCatalog.Toml.Text

/-!
# Texts, written and read back

A text is read back from every form in which it is written, if no quote follows it. In the forms
with three quotes, at most two quotes in a row stand as they are; those in front of the closing ones
belong to the text.

## Main definitions

* `CodeCatalog.Toml.Pieces` — pieces of a text over several lines, as written and as read.
* `CodeCatalog.Toml.Spells` — characters that stand for one character of such a text.
* `CodeCatalog.Toml.Open` — the rest of such a text, behind quotes that belong to it.

## Main results

* `CodeCatalog.Toml.reads_escape` — an escaped character is read as the character.
* `CodeCatalog.Toml.reads_blockBody` — texts over several lines are read back.
* `CodeCatalog.Toml.reads_anyText` — a text is read back from the form that suits it.
-/

namespace CodeCatalog.Toml

variable {x : Char} {text rest : List Char}

/-! ## Characters -/

/-- The control characters by their numbers. -/
lemma isControl_iff : isControl x = true ↔
    x.toNat < 9 ∨ 10 < x.toNat ∧ x.toNat < 32 ∨ x.toNat = 127 := by
  simp [isControl, ← Char.toNat_inj]
  omega

/-- What is no control, no line feed and no mark stands for itself between double quotes. -/
lemma isBasicChar_of_plain (hcontrol : isControl x = false) (hfeed : x ≠ '\n') (hquote : x ≠ '"')
    (hback : x ≠ '\\') : isBasicChar x = true := by
  rw [← Bool.not_eq_true, isControl_iff] at hcontrol
  simp [isBasicChar, isBlank, isVisible, isForeign, ← Char.toNat_inj] at *
  omega

/-- What is no control, no line feed and no quote may stand between single quotes. -/
lemma isLiteralChar_of_plain (hcontrol : isControl x = false) (hfeed : x ≠ '\n')
    (hquote : x ≠ '\x27') : isLiteralChar x = true := by
  rw [← Bool.not_eq_true, isControl_iff] at hcontrol
  simp [isLiteralChar, isBlank, isVisible, isForeign, ← Char.toNat_inj] at *
  omega

/-! ## Escapes -/

/-- A character that is written with a backslash. -/
def NeedsEscape (x : Char) : Prop := x = '"' ∨ x = '\\' ∨ x = '\t' ∨ x = '\n' ∨ isControl x

/-- Whether a character is written with a backslash in a text that may or may not run over several
lines. -/
def IsSpecial (lines : Bool) (x : Char) : Prop :=
  x = '"' ∨ x = '\\' ∨ x = '\t' ∨ isControl x ∨ (x = '\n' ∧ !lines)

/-- Only characters that need a backslash are special. -/
lemma IsSpecial.needsEscape {lines : Bool} (h : IsSpecial lines x) : NeedsEscape x := by
  obtain h | h | h | h | ⟨h, -⟩ := h
  exacts [.inl h, .inr (.inl h), .inr (.inr (.inl h)), .inr (.inr (.inr (.inr h))),
    .inr (.inr (.inr (.inl h)))]

/-- What is written as it is: a character that stands for itself, or the end of a line. -/
lemma isBasicChar_of_not_isSpecial {lines : Bool} (h : ¬ IsSpecial lines x) :
    isBasicChar x = true ∨ x = '\n' ∧ lines = true := by
  simp only [IsSpecial, not_or, not_and, Bool.not_eq_true] at h
  obtain ⟨hquote, hback, -, hcontrol, hfeed⟩ := h
  by_cases hx : x = '\n'
  · exact .inr ⟨hx, by simpa using hfeed hx⟩
  · exact .inl (isBasicChar_of_plain hcontrol hx hquote hback)

/-- A reader with a limit takes a text as long as the limit. -/
lemma reads_upTo {n : Nat} {p : Char → Bool} (hlength : text.length = n)
    (htext : ∀ y ∈ text, p y = true) : Reads (upTo n p) text rest (· = text) := by
  intro c hc
  subst hlength
  have htake : (text ++ []).takeWhile p = text := stops_nil.takeWhile_append htext
  rw [List.append_nil] at htake
  refine ⟨text, c.drop text.length, ?_, c.rest_drop hc, rfl⟩
  rw [upTo, hc, List.take_left, htake]

/-- A character with a short escape is read back from its letter. -/
lemma reads_escapeBody_short {y : Char} (hx : x ≠ 'u' ∧ x ≠ 'U') (h : shortEscape? x = some y) :
    Reads escapeBody [x] rest (· = y) := by
  intro c hc
  refine ⟨y, c.advance, ?_, c.rest_drop hc, rfl⟩
  rw [escapeBody, hc]
  simp only [List.cons_append, hx.1, hx.2, h, if_false]

/-- Two digits are enough for a character of ASCII. -/
lemma numberOf_hexDigit : ∀ n < 128,
    ['0', '0', hexDigit (n / 16), hexDigit (n % 16)].all isHexDigit = true ∧
      numberOf 16 ['0', '0', hexDigit (n / 16), hexDigit (n % 16)] = n := by decide

/-- A character of one byte is read back from four digits. -/
lemma reads_hexEscape (hx : x.toNat < 128) :
    Reads (hexEscape 4) ['0', '0', hexDigit (x.toNat / 16), hexDigit (x.toNat % 16)] rest
      (· = x) := by
  obtain ⟨hdigits, hnumber⟩ := numberOf_hexDigit x.toNat hx
  refine (reads_upTo rfl (List.all_eq_true.mp hdigits)).checked ?_
  rintro digits rfl
  refine ⟨x, ?_, rfl⟩
  rw [hnumber, charOf?, if_pos (show x.toNat.isValidChar from x.valid), Char.ofNat_toNat]
  rfl

/-- A character of one byte is read back from the letter and its digits. -/
lemma reads_escapeBody_number (hx : x.toNat < 128) :
    Reads escapeBody ['u', '0', '0', hexDigit (x.toNat / 16), hexDigit (x.toNat % 16)] rest
      (· = x) := by
  intro c hc
  have hadvance : c.advance.rest =
      ['0', '0', hexDigit (x.toNat / 16), hexDigit (x.toNat % 16)] ++ rest := by
    rw [Cursor.advance, Cursor.drop, hc]
    rfl
  obtain ⟨y, next, hdone, hrest, hy⟩ := (reads_hexEscape hx).firm c.advance hadvance
  refine ⟨y, next, ?_, hrest, hy⟩
  rw [escapeBody, hc]
  exact hdone

/-- **An escaped character is read as the character.** -/
lemma reads_escape (hx : NeedsEscape x) : Reads escape (escapeChar x) rest (· = x) := by
  have hshort (y : Char) (hy : y ≠ 'u' ∧ y ≠ 'U') (h : shortEscape? y = some x) :
      Reads escape ['\\', y] rest (· = x) :=
    (reads_symbol '\\' _).bind fun _ _ => reads_escapeBody_short hy h
  have hofNat {n : Nat} (h : x.toNat = n) : Char.ofNat n = x := by rw [← h, Char.ofNat_toNat]
  unfold escapeChar
  split_ifs with h₁ h₂ h₃ h₄ h₅ h₆ h₇
  · exact hshort 'b' (by decide) (by rw [← hofNat h₁]; rfl)
  · exact hshort 't' (by decide) (by rw [h₂]; rfl)
  · exact hshort 'n' (by decide) (by rw [h₃]; rfl)
  · exact hshort 'f' (by decide) (by rw [← hofNat h₄]; rfl)
  · exact hshort 'r' (by decide) (by rw [h₅]; rfl)
  · exact hshort '"' (by decide) (by rw [h₆]; rfl)
  · exact hshort '\\' (by decide) (by rw [h₇]; rfl)
  · have hcontrol : isControl x = true := by
      obtain h | h | h | h | h := hx
      · exact absurd h h₆
      · exact absurd h h₇
      · exact absurd h h₂
      · exact absurd h h₃
      · exact h
    rw [isControl_iff] at hcontrol
    exact (reads_symbol '\\' _).bind fun _ _ => reads_escapeBody_number (by omega)

/-- Behind the backslash of an escape stands neither a blank nor the end of a line. -/
lemma escapeChar_eq_cons (x : Char) : ∃ y ys, escapeChar x = '\\' :: y :: ys ∧
    isBlank y = false ∧ y ≠ '\n' ∧ y ≠ '\r' := by
  unfold escapeChar
  split_ifs <;> exact ⟨_, _, rfl, by decide, by decide, by decide⟩

/-! ## Texts on one line -/

/-- The characters of a text in double quotes are read one by one. -/
lemma readsMany_writeBasic (text rest : List Char) :
    ReadsMany (orElse (charWhere isBasicChar) escape) ('"' :: rest) (writeBasic false 0 0 text)
      (only text) := by
  induction text with
  | nil =>
    refine .nil (Misses.orElse ?_ ?_)
    · exact (stops_cons (by decide) rest).misses_charWhere
    · exact (misses_symbol (by simp)).bind
  | cons x xs ih =>
    rw [writeBasic, if_neg (by simp)]
    split
    · rename_i hspecial
      obtain ⟨y, ys, heq, -⟩ := escapeChar_eq_cons x
      have hescape : Reads escape (escapeChar x) (writeBasic false 0 0 xs ++ '"' :: rest)
          (· = x) := reads_escape (IsSpecial.needsEscape hspecial)
      refine .cons (Misses.orElse_reads ?_ hescape) (by rw [heq]; nofun) ih
      rw [heq]
      exact (stops_cons (by decide) _).misses_charWhere
    · rename_i hplain
      obtain hbasic | ⟨-, ⟨⟩⟩ := isBasicChar_of_not_isSpecial hplain
      have hfirst : Reads (orElse (charWhere isBasicChar) escape) [x]
          (writeBasic false 0 0 xs ++ '"' :: rest) (· = x) := (reads_charWhere hbasic).orElse
      exact .cons hfirst nofun ih

/-- A text on one line is read back from between double quotes. -/
lemma reads_basicText (text rest : List Char) :
    Reads basicText (TextForm.basic.write text) rest (· = text) := by
  have hbody : Reads (repeated (orElse (charWhere isBasicChar) escape))
      (writeBasic false 0 0 text) (['"'] ++ rest) (· = text) :=
    (readsMany_writeBasic text rest).repeated.imp fun _ => each_only.mp
  refine (reads_symbol '"' _).bind fun _ _ => hbody.bind fun body hbody => ?_
  exact (reads_symbol '"' rest).firm.bind_pure fun _ _ => hbody

/-- A text without controls, line ends and single quotes. -/
lemma reads_literalText (htext : ∀ x ∈ text, isLiteralChar x = true) :
    Reads literalText (TextForm.literal.write text) rest (· = text) := by
  refine (reads_symbol '\x27' _).bind fun _ _ => ?_
  refine (reads_charsWhere htext (stops_cons (by decide) rest)).bind fun body hbody => ?_
  exact (reads_symbol '\x27' rest).firm.bind_pure fun _ _ => hbody

/-! ## Pieces of texts over several lines -/

section Pieces

variable {quote : Char} {piece quoted : Reader (List Char)}

/-- A part of a text over several lines, as it is written and as it is read, piece by piece up to
the next quote. -/
def Pieces (quote : Char) (piece : Reader (List Char)) (written read : List Char) : Prop :=
  ∀ after, after.head? = some quote →
    ∃ ps, ReadsMany piece after written (only ps) ∧ ps.flatten = read

/-- Characters that stand for one character of a text over several lines. -/
structure Spells (quote : Char) (piece : Reader (List Char)) (written : List Char) (x : Char) :
    Prop where
  ne_nil : written ≠ []
  head? : written.head? ≠ some quote
  cons : ∀ w r, Pieces quote piece w r → Pieces quote piece (written ++ w) (x :: r)

/-- Characters that are a piece of their own. -/
lemma spells_of_reads {written : List Char} (hne : written ≠ [])
    (hhead : written.head? ≠ some quote) (h : ∀ after, Reads piece written after (· = [x])) :
    Spells quote piece written x where
  ne_nil := hne
  head? := hhead
  cons := by
    intro w r hpieces after hafter
    obtain ⟨ps, hmany, rfl⟩ := hpieces after hafter
    exact ⟨[x] :: ps, .cons (h _) hne hmany, rfl⟩

/-! ### Pieces between double quotes -/

/-- There is no piece of a text at a double quote. -/
lemma misses_basicPiece {after : List Char} (h : after.head? = some '"') :
    Misses basicPiece after := by
  obtain ⟨xs, rfl⟩ : ∃ xs, after = '"' :: xs := List.head?_eq_some_iff.mp h
  refine (stops_cons (by decide) xs).misses_someWhere.orElse (.orElse ?_ (.orElse ?_ ?_))
  · exact (misses_symbol (by simp)).bind.bind.bind
  · exact (misses_symbol (by simp)).bind.bind
  · exact (misses_newline (by decide) (by decide) xs).bind

/-- The first piece takes all characters up to one that does not stand for itself. -/
lemma basicPiece_of_isBasicChar {c : Cursor} {y : Char} {ys : List Char} (hc : c.rest = y :: ys)
    (hy : isBasicChar y = true) :
    basicPiece c = .done (c.rest.takeWhile isBasicChar)
      (c.drop (c.rest.takeWhile isBasicChar).length) := by
  have hne : (c.rest.takeWhile isBasicChar).isEmpty = false := by
    rw [hc, List.takeWhile_cons, if_pos hy]
    rfl
  simp [basicPiece, Toml.orElse, someWhere, hne]

/-- A piece that begins with a plain character is a run of them, up to the next other one. -/
lemma Reads.run_of_isBasicChar {y : Char} {ys after p : List Char}
    (h : Reads basicPiece (y :: ys) after (· = p)) (hy : isBasicChar y = true) :
    (∀ z ∈ y :: ys, isBasicChar z = true) ∧ Stops isBasicChar after ∧ p = y :: ys := by
  obtain ⟨_, next, hdone, hrest, rfl⟩ := h ⟨0, y :: ys ++ after⟩ rfl
  rw [basicPiece_of_isBasicChar rfl hy] at hdone
  injection hdone with hrun hnext
  set run := (y :: ys ++ after).takeWhile isBasicChar
  set behind := (y :: ys ++ after).dropWhile isBasicChar with hbehind
  have hsplit : run ++ behind = y :: ys ++ after := List.takeWhile_append_dropWhile
  have hdrop : behind = after := by
    rw [← hrest, ← hnext, Cursor.drop, ← hsplit, List.drop_left]
  have heq : run = y :: ys := List.append_cancel_right (hdrop ▸ hsplit)
  refine ⟨fun z hz => ?_, fun z hz => ?_, by rw [← hrun, heq]⟩
  · exact List.mem_takeWhile_imp (heq ▸ hz)
  · have hhead := List.head?_dropWhile_not isBasicChar (y :: ys ++ after)
    rw [← hbehind, hdrop, Option.mem_def.mp hz] at hhead
    exact hhead

/-- A plain character stands for itself. -/
lemma spells_isBasicChar (hx : isBasicChar x = true) : Spells '"' basicPiece [x] x where
  ne_nil := nofun
  head? := by
    rintro ⟨⟩
    cases hx
  cons := by
    intro w r hpieces after hafter
    obtain ⟨ps, hmany, rfl⟩ := hpieces after hafter
    have hsingle (behind : List Char) (h : Stops isBasicChar behind) :
        Reads basicPiece [x] behind (· = [x]) := by
      have hone : ∀ y ∈ [x], isBasicChar y = true := by simpa using hx
      exact (reads_someWhere hone (List.cons_ne_nil x []) h).orElse
    cases ps with
    | nil =>
      cases hmany with
      | nil hmisses =>
        obtain ⟨xs, rfl⟩ : ∃ xs, after = '"' :: xs := List.head?_eq_some_iff.mp hafter
        exact ⟨[[x]], .cons (hsingle _ (stops_cons (by decide) xs)) nofun (.nil hmisses), rfl⟩
    | cons p ps =>
      cases hmany with
      | @cons text more _ _ hfirst hne hmore =>
        obtain ⟨y, ys, rfl⟩ := List.exists_cons_of_ne_nil hne
        by_cases hy : isBasicChar y = true
        · -- the first piece grows by the character
          obtain ⟨hall, hstops, rfl⟩ := hfirst.run_of_isBasicChar hy
          have hgrown : Reads basicPiece (x :: y :: ys) (more ++ after) (· = x :: y :: ys) :=
            (reads_someWhere (List.forall_mem_cons.mpr ⟨hx, hall⟩) nofun hstops).orElse
          have hmany : ReadsMany basicPiece after (x :: y :: ys ++ more)
              (only ((x :: y :: ys) :: ps)) := .cons hgrown nofun hmore
          exact ⟨(x :: y :: ys) :: ps, hmany, rfl⟩
        · -- the character is a piece of its own
          have hstops : Stops isBasicChar (y :: ys ++ more ++ after) :=
            stops_cons (by simpa using hy) _
          exact ⟨[x] :: p :: ps, .cons (hsingle _ hstops) nofun (.cons hfirst hne hmore), rfl⟩

/-- An escaped character stands for the character. -/
lemma spells_escapeChar (hx : NeedsEscape x) : Spells '"' basicPiece (escapeChar x) x := by
  obtain ⟨y, ys, heq, hblank, hfeed, hreturn⟩ := escapeChar_eq_cons x
  refine spells_of_reads (by rw [heq]; nofun) (by rw [heq]; simp) fun after => ?_
  have hescape : Reads (do let y ← escape; return [y]) (escapeChar x) after (· = [x]) :=
    (reads_escape hx).bind_pure (by rintro _ rfl; rfl)
  refine Misses.orElse_reads ?_ (Misses.orElse_reads ?_ hescape.orElse)
  · rw [heq]
    exact (stops_cons (by decide) _).misses_someWhere
  · -- a backslash joins lines only if its line ends behind it
    rw [heq]
    refine Misses.bind (Misses.bind ?_)
    refine (reads_symbol '\\' (y :: ys ++ after)).bind_misses fun _ _ => ?_
    have hnone : Reads blanks [] (y :: (ys ++ after)) fun _ => True :=
      reads_noBlanks (stops_cons hblank _)
    exact hnone.bind_misses fun _ _ => (misses_newline hfeed hreturn _).bind

/-- A line feed stands for itself in a text over several lines. -/
lemma spells_feed_basicPiece : Spells '"' basicPiece ['\n'] '\n' := by
  refine spells_of_reads nofun (by simp) fun after => ?_
  have hfeed : Reads lineChar ['\n'] after (· = ['\n']) :=
    (reads_newline after).bind_pure fun _ _ => rfl
  refine Misses.orElse_reads ?_ (Misses.orElse_reads ?_ (Misses.orElse_reads ?_ hfeed))
  · exact (stops_cons (by decide) _).misses_someWhere
  · exact (misses_symbol (by simp)).bind.bind.bind
  · exact (misses_symbol (by simp)).bind.bind

/-! ### Pieces between single quotes -/

/-- There is no piece of a literal text at a single quote. -/
lemma misses_literalPiece {after : List Char} (h : after.head? = some '\x27') :
    Misses literalPiece after := by
  obtain ⟨xs, rfl⟩ : ∃ xs, after = '\x27' :: xs := List.head?_eq_some_iff.mp h
  refine Misses.orElse (stops_cons (by decide) xs).misses_charWhere.bind ?_
  exact (misses_newline (by decide) (by decide) xs).bind

/-- A plain character of a literal text stands for itself. -/
lemma spells_isLiteralChar (hx : isLiteralChar x = true) :
    Spells '\x27' literalPiece [x] x := by
  refine spells_of_reads nofun ?_ fun after => ?_
  · rintro ⟨⟩
    cases hx
  · exact Reads.orElse ((reads_charWhere hx).bind_pure (by rintro _ rfl; rfl))

/-- A line feed stands for itself in a literal text over several lines. -/
lemma spells_feed_literalPiece : Spells '\x27' literalPiece ['\n'] '\n' := by
  refine spells_of_reads nofun (by simp) fun after => ?_
  refine Misses.orElse_reads (stops_cons (by decide) _).misses_charWhere.bind ?_
  exact (reads_newline after).bind_pure fun _ _ => rfl

end Pieces

/-! ## Quotes in texts over several lines -/

section Quotes

variable {quote : Char} {piece quoted : Reader (List Char)} {written read : List Char} {count : Nat}

/-- Quotes are taken if the right thing stands behind them. -/
lemma reads_literal_peek {behind : Reader Unit} {after : List Char} (qs : List Char)
    (h : Reads (peek behind) [] after fun _ => True) :
    Reads (do let qs ← literal qs; peek behind; return qs) qs after (· = qs) := by
  have hread : Reads (do let qs ← literal qs; peek behind; return qs) (qs ++ []) after (· = qs) :=
    (reads_literal qs _).bind fun _ hqs => h.bind_pure fun _ _ => hqs
  rwa [List.append_nil] at hread

/-- One or two quotes are taken in front of another character. -/
lemma reads_quotesBefore_other {y : Char} {ys : List Char} (hy : y ≠ quote) (hpos : 0 < count)
    (hcount : count ≤ 2) : Reads (quotesBefore quote (otherThan quote)) (List.replicate count quote)
      (y :: ys) (· = List.replicate count quote) := by
  have hpeek : Reads (peek (otherThan quote)) [] (y :: ys) fun _ => True := by
    have hchar : Reads (charWhere (· != quote)) [y] ys (· = y) :=
      reads_charWhere (bne_iff_ne.mpr hy)
    have hother : Reads (otherThan quote) [y] ys fun _ => True :=
      hchar.bind_pure fun _ _ => trivial
    exact hother.peek
  obtain rfl | rfl : count = 1 ∨ count = 2 := by omega
  · refine Misses.orElse_reads (Misses.bind (misses_literal ?_)) (reads_literal_peek [quote] hpeek)
    simpa using fun h => hy h.symm
  · exact (reads_literal_peek [quote, quote] hpeek).orElse

/-- Three quotes in a row are not quotes in front of another character. -/
lemma misses_quotesBefore_other (more : List Char) :
    Misses (quotesBefore quote (otherThan quote)) (quote :: quote :: quote :: more) := by
  have hpeek (xs : List Char) : Misses (peek (otherThan quote)) (quote :: xs) :=
    Misses.peek (Stops.misses_charWhere (stops_cons (by simp) xs)).bind
  refine Misses.orElse ?_ ?_
  · exact (reads_literal [quote, quote] _).bind_misses fun _ _ => (hpeek more).bind
  · exact (reads_literal [quote] _).bind_misses fun _ _ => (hpeek _).bind

/-- Three quotes delimit a text over several lines. -/
lemma reads_delimiter (quote : Char) (rest : List Char) :
    Reads (delimiter quote) [quote, quote, quote] rest fun _ => True :=
  (reads_literal _ rest).bind_pure fun _ _ => trivial

/-- Fewer than three quotes delimit no text over several lines. -/
lemma misses_delimiter (hrest : rest.head? ≠ some quote) (count : Nat) (hcount : count < 3) :
    Misses (delimiter quote) (List.replicate count quote ++ rest) := by
  refine Misses.bind (misses_literal ?_)
  obtain rfl | rfl | rfl : count = 0 ∨ count = 1 ∨ count = 2 := by omega
  all_goals
    cases rest with
    | nil => simp
    | cons y ys =>
      have hy : quote ≠ y := fun h => hrest (by rw [h]; rfl)
      simp [List.replicate, hy]

/-- Quotes in front of the closing ones belong to the text. -/
lemma reads_lastQuotes (hrest : rest.head? ≠ some quote) (hcount : count ≤ 2) :
    Reads (maybe (quotesBefore quote (delimiter quote))) (List.replicate count quote)
      ([quote, quote, quote] ++ rest) fun last => last.getD [] = List.replicate count quote := by
  have hpeek := (reads_delimiter quote rest).peek
  have htwo (n : Nat) (hn : n < 3) :
      Misses (do let qs ← literal [quote, quote]; peek (delimiter quote); return qs)
        ([quote, quote] ++ (List.replicate n quote ++ rest)) :=
    (reads_literal _ _).bind_misses fun _ _ => (misses_delimiter hrest n hn).peek.bind
  obtain rfl | rfl | rfl : count = 0 ∨ count = 1 ∨ count = 2 := by omega
  · have hnone : Misses (quotesBefore quote (delimiter quote)) ([quote, quote, quote] ++ rest) := by
      refine Misses.orElse (htwo 1 (by omega)) ?_
      exact (reads_literal [quote] _).bind_misses fun _ _ =>
        (misses_delimiter hrest 2 (by omega)).peek.bind
    exact hnone.maybe.imp (by rintro _ rfl; rfl)
  · have hone : Reads (quotesBefore quote (delimiter quote)) [quote]
        ([quote, quote, quote] ++ rest) (· = [quote]) :=
      Misses.orElse_reads (htwo 2 (by omega)) (reads_literal_peek [quote] hpeek)
    exact hone.maybe.imp (by rintro _ ⟨_, rfl, rfl⟩; rfl)
  · have hboth : Reads (quotesBefore quote (delimiter quote)) [quote, quote]
        ([quote, quote, quote] ++ rest) (· = [quote, quote]) :=
      (reads_literal_peek [quote, quote] hpeek).orElse
    exact hboth.maybe.imp (by rintro _ ⟨_, rfl, rfl⟩; rfl)

/-- A text over several lines from its first quote on: runs of one or two quotes with pieces behind
them, and then at most two quotes. -/
inductive Runs (quote : Char) (piece : Reader (List Char)) : List Char → List Char → Prop
  | last (count : Nat) (hcount : count ≤ 2) :
      Runs quote piece (List.replicate count quote) (List.replicate count quote)
  | more {count : Nat} {w r written read : List Char} (hpos : 0 < count) (hcount : count ≤ 2)
      (hne : w ≠ []) (hhead : w.head? ≠ some quote) (hpieces : Pieces quote piece w r)
      (h : Runs quote piece written read) :
      Runs quote piece (List.replicate count quote ++ (w ++ written))
        (List.replicate count quote ++ (r ++ read))

/-- A run begins with a quote, and the empty one is followed by a quote. -/
lemma Runs.head?_append (h : Runs quote piece written read) {after : List Char}
    (hafter : after.head? = some quote) : (written ++ after).head? = some quote := by
  cases h with
  | last count hcount =>
    cases count with
    | zero => exact hafter
    | succ count => rfl
  | @more count w r written read hpos hcount hne hhead hpieces h =>
    cases count with
    | zero => cases hpos
    | succ count => rfl

/-- Quotes with pieces behind them. -/
def quotedRun (quote : Char) (quoted : Reader (List Char)) : Reader (List Char) := do
  let qs ← quotesBefore quote (otherThan quote)
  let text ← quoted
  return qs ++ text

/-- A reader of pieces that takes all of them up to the next quote. -/
def TakesPieces (quote : Char) (piece quoted : Reader (List Char)) : Prop :=
  ∀ w r after, Pieces quote piece w r → w ≠ [] → after.head? = some quote →
    Reads quoted w after (· = r)

/-- The runs of quotes are read one by one, up to the last quotes.

**Proof sketch.** Induction on the runs. A run is taken because pieces stand behind it; at the end
there are three quotes at least, so no other run is found. -/
lemma Runs.readsMany (hquoted : TakesPieces quote piece quoted)
    (h : Runs quote piece written read) (rest : List Char) :
    ∃ middle segments count, count ≤ 2 ∧ written = middle ++ List.replicate count quote ∧
      read = segments.flatten ++ List.replicate count quote ∧
      ReadsMany (quotedRun quote quoted)
        (List.replicate count quote ++ ([quote, quote, quote] ++ rest)) middle (only segments) := by
  induction h with
  | last count hcount =>
    refine ⟨[], [], count, hcount, rfl, rfl, .nil (Misses.bind ?_)⟩
    obtain rfl | rfl | rfl : count = 0 ∨ count = 1 ∨ count = 2 := by omega
    all_goals exact misses_quotesBefore_other _
  | @more count w r written read hpos hcount hne hhead hpieces h ih =>
    obtain ⟨middle, segments, last, hlast, rfl, rfl, hmany⟩ := ih
    refine ⟨List.replicate count quote ++ w ++ middle,
      (List.replicate count quote ++ r) :: segments, last, hlast, by simp, by simp, ?_⟩
    have hafter : (middle ++ (List.replicate last quote ++
        ([quote, quote, quote] ++ rest))).head? = some quote := by
      rw [← List.append_assoc]
      exact h.head?_append rfl
    obtain ⟨y, ys, rfl⟩ := List.exists_cons_of_ne_nil hne
    have hy : y ≠ quote := fun heq => hhead (by rw [heq]; rfl)
    refine .cons ?_ (by simp) hmany
    refine (reads_quotesBefore_other hy hpos hcount).bind fun qs hqs => ?_
    exact (hquoted _ r _ hpieces hne hafter).bind_pure fun text htext => by rw [hqs, htext]

/-- The rest of a text over several lines behind some quotes that belong to it. -/
def Open (quote : Char) (piece : Reader (List Char)) : Nat → List Char → List Char → Prop
  | 0, written, read => ∃ w r written' read', written = w ++ written' ∧ read = r ++ read' ∧
      Pieces quote piece w r ∧ Runs quote piece written' read'
  | count + 1, written, read =>
      Runs quote piece (List.replicate (count + 1) quote ++ written)
        (List.replicate (count + 1) quote ++ read)

/-- A reader of pieces that finds none at a quote. -/
def StopsAt (quote : Char) (piece : Reader (List Char)) : Prop :=
  ∀ after : List Char, after.head? = some quote → Misses piece after

/-- Nothing is read where there is no piece. -/
lemma StopsAt.pieces_nil (h : StopsAt quote piece) : Pieces quote piece [] [] :=
  fun after hafter => ⟨[], .nil (h after hafter), rfl⟩

/-- At most two quotes may stand at the end of a text. -/
lemma StopsAt.open_nil (h : StopsAt quote piece) (hcount : count ≤ 2) :
    Open quote piece count [] [] := by
  cases count with
  | zero => exact ⟨[], [], [], [], rfl, rfl, h.pieces_nil, .last 0 (by omega)⟩
  | succ count =>
    rw [Open, List.append_nil]
    exact .last _ hcount

/-- One more quote is added to the quotes before the rest. -/
lemma StopsAt.open_quote (h : StopsAt quote piece)
    (hopen : Open quote piece (count + 1) written read) :
    Open quote piece count (quote :: written) (quote :: read) := by
  cases count with
  | zero => exact ⟨[], [], _, _, rfl, rfl, h.pieces_nil, hopen⟩
  | succ count =>
    rw [Open] at hopen ⊢
    rwa [List.replicate_succ', List.append_assoc, List.append_assoc] at hopen

/-- The characters that stand for another character end the quotes before them. -/
lemma Spells.open {w : List Char} (h : Spells quote piece w x) (hcount : count ≤ 2)
    (hopen : Open quote piece 0 written read) :
    Open quote piece count (w ++ written) (x :: read) := by
  obtain ⟨v, r, written, read, rfl, rfl, hpieces, hruns⟩ := hopen
  have hgrown := h.cons v r hpieces
  cases count with
  | zero => exact ⟨w ++ v, x :: r, written, read, by simp, rfl, hgrown, hruns⟩
  | succ count =>
    have hne : w ++ v ≠ [] := by simp [h.ne_nil]
    have hhead : (w ++ v).head? ≠ some quote := by
      obtain ⟨y, ys, rfl⟩ := List.exists_cons_of_ne_nil h.ne_nil
      exact h.head?
    rw [Open, ← List.append_assoc w]
    exact .more (Nat.succ_pos count) hcount hne hhead hgrown hruns

/-- **A text over several lines is read back**, if no quote follows the closing ones.

**Proof sketch.** First the pieces up to the first quote, then the runs of quotes with pieces behind
them (`Runs.readsMany`), then the quotes in front of the closing ones (`reads_lastQuotes`). -/
lemma reads_blockBody (hquoted : TakesPieces quote piece quoted)
    (h : Open quote piece 0 written read) (hrest : rest.head? ≠ some quote) :
    Reads (blockBody quote (pieces piece) quoted) written ([quote, quote, quote] ++ rest)
      (· = read) := by
  obtain ⟨w, r, written, read, rfl, rfl, hpieces, hruns⟩ := h
  have hafter : (written ++ ([quote, quote, quote] ++ rest)).head? = some quote :=
    hruns.head?_append rfl
  obtain ⟨ps, hfirst, rfl⟩ := hpieces _ hafter
  obtain ⟨middle, segments, count, hcount, rfl, rfl, hmany⟩ := hruns.readsMany hquoted rest
  have hpieces : Reads (pieces piece) w
      (middle ++ List.replicate count quote ++ ([quote, quote, quote] ++ rest))
      (· = ps.flatten) :=
    hfirst.repeated.bind_pure fun as has => by rw [each_only.mp has]
  refine hpieces.bind fun first hfirst => ?_
  refine hmany.repeated.bind fun more hmore => ?_
  refine (reads_lastQuotes hrest hcount).bind_pure fun last hlast => ?_
  rw [hfirst, each_only.mp hmore, hlast, List.append_assoc]

/-- Pieces that are read one after another are all taken up to the next quote. -/
lemma takesPieces_somePieces : TakesPieces quote piece (somePieces piece) := by
  intro w r after hpieces hne hafter
  obtain ⟨ps, hmany, rfl⟩ := hpieces after hafter
  exact (hmany.repeatedOnce hne).bind_pure fun as has => by rw [each_only.mp has]

/-- The end of a line behind the opening quotes is no part of the text. -/
lemma reads_firstLine {body : List Char}
    (h : text.contains '\n' = false → Misses newline (body ++ rest)) :
    Reads (maybe newline) (firstLine text) (body ++ rest) fun _ => True := by
  unfold firstLine
  split
  · exact (reads_newline _).maybe.imp fun _ _ => trivial
  · rename_i hlines
    exact (h (by simpa using hlines)).maybe.imp fun _ _ => trivial

/-- A text between three quotes is read by its parts. -/
lemma reads_block {body : List Char} {block : Reader (List Char)}
    (hnewline : text.contains '\n' = false →
      Misses newline (body ++ ([quote, quote, quote] ++ rest)))
    (hbody : Reads block body ([quote, quote, quote] ++ rest) (· = text)) :
    Reads
      (do
        delimiter quote
        let _ ← maybe newline
        let body ← firm block
        firm (delimiter quote)
        return body)
      ([quote, quote, quote] ++ (firstLine text ++ (body ++ [quote, quote, quote]))) rest
      (· = text) := by
  refine (reads_delimiter quote _).bind fun _ _ => ?_
  refine Reads.bind (by rw [List.append_assoc]; exact reads_firstLine hnewline) fun _ _ => ?_
  refine hbody.firm.bind fun _ hread => ?_
  exact (reads_delimiter quote rest).firm.bind_pure fun _ _ => hread

end Quotes

/-! ### Double quotes -/

/-- Pieces of a text stop at a double quote. -/
lemma stopsAt_basicPiece : StopsAt '"' basicPiece := fun _ => misses_basicPiece

/-- A text over several lines in double quotes: of three quotes in a row the third is escaped. -/
lemma open_writeBasic (text : List Char) {count : Nat} (hcount : count ≤ 2) :
    Open '"' basicPiece count (writeBasic true 2 count text) text := by
  induction text generalizing count with
  | nil => exact stopsAt_basicPiece.open_nil hcount
  | cons x xs ih =>
    rw [writeBasic]
    split
    · rename_i hquote
      obtain ⟨rfl, hrun⟩ := hquote
      exact stopsAt_basicPiece.open_quote (ih hrun)
    · split
      · rename_i hspecial
        exact (spells_escapeChar (IsSpecial.needsEscape hspecial)).open hcount (ih (by omega))
      · rename_i hplain
        have hspells : Spells '"' basicPiece [x] x := by
          obtain hbasic | ⟨rfl, -⟩ := isBasicChar_of_not_isSpecial hplain
          · exact spells_isBasicChar hbasic
          · exact spells_feed_basicPiece
        exact hspells.open hcount (ih (by omega))

/-- A text that has no line end does not begin with one, however it is written. -/
lemma misses_newline_writeBasic (h : text.contains '\n' = false) (rest : List Char) :
    Misses newline (writeBasic true 2 0 text ++ '"' :: rest) := by
  cases text with
  | nil => exact misses_newline (by decide) (by decide) rest
  | cons x xs =>
    rw [writeBasic]
    split
    · rename_i hquote
      rw [hquote.1]
      exact misses_newline (by decide) (by decide) _
    · split
      · obtain ⟨y, ys, heq, -⟩ := escapeChar_eq_cons x
        rw [heq]
        exact misses_newline (by decide) (by decide) _
      · rename_i hplain
        have hfeed : x ≠ '\n' := by
          rintro rfl
          simp at h
        have hreturn : x ≠ '\r' := by
          rintro rfl
          exact hplain (.inr (.inr (.inr (.inl (by decide)))))
        exact misses_newline hfeed hreturn _

/-- A text over several lines is read back from between three double quotes. -/
lemma reads_basicBlock (hrest : rest.head? ≠ some '"') :
    Reads basicBlock (TextForm.basicBlock.write text) rest (· = text) := by
  have hquoted : TakesPieces '"' basicPiece (demand (somePieces basicPiece)) :=
    fun w r after hpieces hne hafter => (takesPieces_somePieces w r after hpieces hne hafter).demand
  have hbody := reads_blockBody hquoted (open_writeBasic text (Nat.zero_le 2)) hrest
  have hread := reads_block (fun h => misses_newline_writeBasic h _) hbody
  simp only [TextForm.write, List.append_assoc]
  exact hread

/-! ### Single quotes -/

/-- Pieces of a literal text stop at a single quote. -/
lemma stopsAt_literalPiece : StopsAt '\x27' literalPiece := fun _ => misses_literalPiece

/-- The longest run is at least as long as the run that has begun. -/
lemma le_longestRun (quote : Char) (run : Nat) (text : List Char) :
    run ≤ longestRun quote run text := by
  induction text generalizing run with
  | nil => exact Nat.le_refl run
  | cons x xs ih =>
    rw [longestRun]
    split
    · exact Nat.le_trans (Nat.le_succ run) (ih (run + 1))
    · exact Nat.le_max_left _ _

/-- Where no run of a character is, the character is not. -/
lemma not_mem_of_longestRun {quote : Char} (h : longestRun quote 0 text = 0) : quote ∉ text := by
  induction text with
  | nil => exact List.not_mem_nil
  | cons x xs ih =>
    rw [longestRun] at h
    split at h
    · exact absurd (le_longestRun quote (0 + 1) xs) (by omega)
    · rename_i hx
      have hxs : longestRun quote 0 xs = 0 := by omega
      exact List.not_mem_cons_of_ne_of_not_mem (fun heq => hx heq.symm) (ih hxs)

/-- A text over several lines in single quotes: no three of them stand in a row. -/
lemma open_literal {count : Nat} (hcontrol : text.any isControl = false)
    (hruns : longestRun '\x27' count text ≤ 2) : Open '\x27' literalPiece count text text := by
  induction text generalizing count with
  | nil => exact stopsAt_literalPiece.open_nil hruns
  | cons x xs ih =>
    simp only [List.any_cons, Bool.or_eq_false_iff] at hcontrol
    have hcount := Nat.le_trans (le_longestRun '\x27' count (x :: xs)) hruns
    rw [longestRun] at hruns
    split at hruns
    · rename_i hx
      subst hx
      exact stopsAt_literalPiece.open_quote (ih hcontrol.2 hruns)
    · rename_i hx
      have hspells : Spells '\x27' literalPiece [x] x := by
        by_cases hfeed : x = '\n'
        · subst hfeed
          exact spells_feed_literalPiece
        · exact spells_isLiteralChar (isLiteralChar_of_plain hcontrol.1 hfeed hx)
      exact hspells.open hcount (ih hcontrol.2 (by omega))

/-- No new line stands before a literal text without line feeds and control characters. -/
lemma misses_newline_literal (hcontrol : text.any isControl = false)
    (h : text.contains '\n' = false) (rest : List Char) :
    Misses newline (text ++ '\x27' :: rest) := by
  cases text with
  | nil => exact misses_newline (by decide) (by decide) rest
  | cons x xs =>
    have hfeed : x ≠ '\n' := by
      rintro rfl
      simp at h
    have hreturn : x ≠ '\r' := by
      rintro rfl
      simp [isControl] at hcontrol
    exact misses_newline hfeed hreturn _

/-- A literal text over several lines is read back if it has neither control characters nor three
quotes in a row. -/
lemma reads_literalBlock (hcontrol : text.any isControl = false)
    (hruns : longestRun '\x27' 0 text ≤ 2) (hrest : rest.head? ≠ some '\x27') :
    Reads literalBlock (TextForm.literalBlock.write text) rest (· = text) := by
  have hbody := reads_blockBody takesPieces_somePieces (open_literal hcontrol hruns) hrest
  have hread := reads_block (fun h => misses_newline_literal hcontrol h _) hbody
  simp only [TextForm.write, List.append_assoc]
  exact hread

/-! ## Texts of any form -/

/-- A form in which a text can be read back. -/
def TextForm.Suits (text : List Char) : TextForm → Prop
  | .basic => True
  | .literal => text.any isControl = false ∧ '\n' ∉ text ∧ '\x27' ∉ text
  | .basicBlock => True
  | .literalBlock => text.any isControl = false ∧ longestRun '\x27' 0 text ≤ 2

/-- The form that is chosen for a text suits it. -/
lemma chooseForm_suits (text : List Char) : (chooseForm text).Suits text := by
  unfold chooseForm
  dsimp only
  split_ifs with h₁ h₂ h₃ h₄ h₅
  · trivial
  · simp only [Bool.and_eq_true, Bool.not_eq_true', beq_iff_eq] at h₂
    exact ⟨h₂.1.1, by simpa using h₂.2, not_mem_of_longestRun h₂.1.2⟩
  · trivial
  · simp only [Bool.and_eq_true, Bool.not_eq_true', decide_eq_true_eq] at h₄
    exact h₄
  · trivial
  · trivial

/-- What may follow a text: no quote. -/
def NoQuote (rest : List Char) : Prop := rest.head? ≠ some '"' ∧ rest.head? ≠ some '\x27'

/-- A text over several lines begins with three double quotes. -/
lemma misses_basicBlock (h : ¬ ['"', '"', '"'] <+: text) : Misses basicBlock text :=
  (misses_literal h).bind.bind

/-- A literal text over several lines begins with three single quotes. -/
lemma misses_literalBlock (h : ¬ ['\x27', '\x27', '\x27'] <+: text) : Misses literalBlock text :=
  (misses_literal h).bind.bind

/-- A text in double quotes does not look like one between three of them. -/
lemma misses_basicBlock_write (text : List Char) (hrest : rest.head? ≠ some '"') :
    Misses basicBlock (TextForm.basic.write text ++ rest) := by
  refine misses_basicBlock ?_
  cases text with
  | nil =>
    cases rest with
    | nil => decide
    | cons y ys =>
      have hy : '"' ≠ y := fun h => hrest (by rw [← h]; rfl)
      simp [TextForm.write, writeBasic, hy]
  | cons x xs =>
    rw [TextForm.write, writeBasic, if_neg (by simp)]
    split
    · obtain ⟨y, ys, heq, -⟩ := escapeChar_eq_cons x
      simp [heq]
    · rename_i hplain
      have hx : '"' ≠ x := fun h => hplain (.inl h.symm)
      simp [hx]

/-- A text in single quotes does not look like one between three of them. -/
lemma misses_literalBlock_write (htext : '\x27' ∉ text) (hrest : rest.head? ≠ some '\x27') :
    Misses literalBlock (TextForm.literal.write text ++ rest) := by
  refine misses_literalBlock ?_
  cases text with
  | nil =>
    cases rest with
    | nil => decide
    | cons y ys =>
      have hy : '\x27' ≠ y := fun h => hrest (by rw [← h]; rfl)
      simp [TextForm.write, hy]
  | cons x xs =>
    have hx : '\x27' ≠ x := fun h => htext (by rw [h]; exact List.mem_cons_self)
    simp [TextForm.write, hx]

/-- **A text is read back from the form that suits it.** -/
lemma reads_anyText (text : List Char) (hrest : NoQuote rest) :
    Reads anyText ((chooseForm text).write text) rest (· = text) := by
  have hsuits := chooseForm_suits text
  -- a text in single quotes is no text in double quotes
  have hsingle (xs : List Char) :
      Misses basicBlock ('\x27' :: xs) ∧ Misses basicText ('\x27' :: xs) :=
    ⟨misses_basicBlock (by simp), (misses_symbol (by simp)).bind⟩
  cases hform : chooseForm text with
  | basic =>
    exact (misses_basicBlock_write text hrest.1).orElse_reads (reads_basicText text rest).orElse
  | literal =>
    rw [hform] at hsuits
    obtain ⟨hcontrol, hfeed, hquote⟩ := hsuits
    have hliteral : ∀ x ∈ text, isLiteralChar x = true := by
      intro x hx
      refine isLiteralChar_of_plain ?_ (fun h => hfeed (h ▸ hx)) (fun h => hquote (h ▸ hx))
      simpa using List.any_eq_false.mp hcontrol x hx
    refine (hsingle _).1.orElse_reads ((hsingle _).2.orElse_reads ?_)
    exact (misses_literalBlock_write hquote hrest.2).orElse_reads (reads_literalText hliteral)
  | basicBlock => exact (reads_basicBlock hrest.1).orElse
  | literalBlock =>
    rw [hform] at hsuits
    refine (hsingle _).1.orElse_reads ((hsingle _).2.orElse_reads ?_)
    exact (reads_literalBlock hsuits.1 hsuits.2 hrest.2).orElse

end CodeCatalog.Toml
