import Mathlib.Data.List.Forall2
import Mathlib.Tactic.Lemma
import CodeCatalog.Toml.Blank

/-!
# What readers take

A reader takes a part of a text if it gives a value and leaves what follows that part, wherever the
text stands in a file. Readers that are put together take the parts of a text one after the other.

## Main definitions

* `CodeCatalog.Toml.Reads` — a reader takes a part of a text and gives a value of a kind.
* `CodeCatalog.Toml.Misses` — a reader finds nothing at the begin of a text.
* `CodeCatalog.Toml.ReadsMany` — a reader that is repeated takes a part of a text.
* `CodeCatalog.Toml.Stops` — a text that does not begin with a character of a kind.

## Main results

* `CodeCatalog.Toml.Reads.bind` — one reader behind another.
* `CodeCatalog.Toml.Reads.orElse`, `Misses.orElse_reads` — alternatives.
* `CodeCatalog.Toml.ReadsMany.repeated` — repetitions.
-/

namespace CodeCatalog.Toml

variable {α β : Type} {r s : Reader α} {next : α → Reader β} {text more rest : List Char}
  {P P' : α → Prop} {Q : β → Prop}

/-- A reader takes `text` in front of `rest`, and gives a value of a kind. -/
def Reads (r : Reader α) (text rest : List Char) (P : α → Prop) : Prop :=
  ∀ c : Cursor, c.rest = text ++ rest → ∃ a next, r c = .done a next ∧ next.rest = rest ∧ P a

/-- A reader finds nothing at the begin of a text. -/
def Misses (r : Reader α) (text : List Char) : Prop :=
  ∀ c : Cursor, c.rest = text → ∃ place, r c = .miss place

/-! ## Sequences -/

/-- What is read has all that follows from what is known about it. -/
lemma Reads.imp (h : Reads r text rest P) (himp : ∀ a, P a → P' a) : Reads r text rest P' := by
  intro c hc
  obtain ⟨a, next, hdone, hrest, ha⟩ := h c hc
  exact ⟨a, next, hdone, hrest, himp a ha⟩

/-- Giving a value reads nothing. -/
lemma reads_pure {a : α} (h : P a) : Reads (pure a) [] rest P :=
  fun c hc => ⟨a, c, rfl, hc, h⟩

/-- **One reader behind another** takes one part behind the other. -/
lemma Reads.bind (h : Reads r text (more ++ rest) P)
    (hnext : ∀ a, P a → Reads (next a) more rest Q) :
    Reads (r >>= next) (text ++ more) rest Q := by
  intro c hc
  obtain ⟨a, c₁, hdone, hrest, ha⟩ := h c (by rw [hc, List.append_assoc])
  obtain ⟨b, c₂, hdone₂, hrest₂, hb⟩ := hnext a ha c₁ hrest
  refine ⟨b, c₂, ?_, hrest₂, hb⟩
  show (r c).andThen _ = _
  rw [hdone]
  exact hdone₂

/-- A reader behind one that takes nothing. -/
lemma Reads.bind_nil (h : Reads r [] (text ++ rest) P)
    (hnext : ∀ a, P a → Reads (next a) text rest Q) : Reads (r >>= next) text rest Q := h.bind hnext

/-- Something is made of what a reader gives. -/
lemma Reads.bind_pure {f : α → β} (h : Reads r text rest P) (hf : ∀ a, P a → Q (f a)) :
    Reads (r >>= fun a => pure (f a)) text rest Q := by
  have hbind : Reads (r >>= fun a => pure (f a)) (text ++ []) rest Q :=
    Reads.bind h fun a ha => reads_pure (hf a ha)
  rwa [List.append_nil] at hbind

/-- Two readers miss a text if the first does. -/
lemma Misses.bind (h : Misses r text) : Misses (r >>= next) text := by
  intro c hc
  obtain ⟨place, hmiss⟩ := h c hc
  exact ⟨place, by show (r c).andThen _ = _; rw [hmiss]; rfl⟩

/-- The second reader finds nothing behind what the first one takes. -/
lemma Reads.bind_misses (h : Reads r text rest P) (hnext : ∀ a, P a → Misses (next a) rest) :
    Misses (r >>= next) (text ++ rest) := by
  intro c hc
  obtain ⟨a, c₁, hdone, hrest, ha⟩ := h c hc
  obtain ⟨place, hmiss⟩ := hnext a ha c₁ hrest
  exact ⟨place, by show (r c).andThen _ = _; rw [hdone]; exact hmiss⟩

/-! ## Misses and failures -/

/-- Giving no way back does not matter when reading succeeds. -/
lemma Reads.firm (h : Reads r text rest P) : Reads (firm r) text rest P := by
  intro c hc
  obtain ⟨a, next, hdone, hrest⟩ := h c hc
  exact ⟨a, next, by rw [Toml.firm, hdone], hrest⟩

/-- Demanding something does not matter when reading it succeeds. -/
lemma Reads.demand (h : Reads r text rest P) : Reads (demand r) text rest P := by
  intro c hc
  obtain ⟨a, next, hdone, hrest⟩ := h c hc
  exact ⟨a, next, by rw [Toml.demand, hdone], hrest⟩

/-- A second way to read does not matter when the first succeeds. -/
lemma Reads.orElse (h : Reads r text rest P) : Reads (orElse r s) text rest P := by
  intro c hc
  obtain ⟨a, next, hdone, hrest⟩ := h c hc
  exact ⟨a, next, by rw [Toml.orElse, hdone], hrest⟩

/-- The second reader takes what the first one does not find. -/
lemma Misses.orElse_reads (h : Misses r (text ++ rest)) (hs : Reads s text rest P) :
    Reads (orElse r s) text rest P := by
  intro c hc
  obtain ⟨place, hmiss⟩ := h c hc
  obtain ⟨a, next, hdone, hrest⟩ := hs c hc
  exact ⟨a, next, by rw [Toml.orElse, hmiss]; exact hdone, hrest⟩

/-- Two ways to read miss a text if both do. -/
lemma Misses.orElse (h : Misses r text) (hs : Misses s text) : Misses (orElse r s) text := by
  intro c hc
  obtain ⟨place, hmiss⟩ := h c hc
  obtain ⟨place', hmiss'⟩ := hs c hc
  exact ⟨place', by rw [Toml.orElse, hmiss]; exact hmiss'⟩

/-- What may be read is read if it is there. -/
lemma Reads.maybe (h : Reads r text rest P) :
    Reads (maybe r) text rest fun o => ∃ a, o = some a ∧ P a := by
  intro c hc
  obtain ⟨a, next, hdone, hrest, ha⟩ := h c hc
  exact ⟨some a, next, by rw [Toml.maybe, hdone], hrest, a, rfl, ha⟩

/-- What may be read is left out if it is not there. -/
lemma Misses.maybe (h : Misses r rest) : Reads (maybe r) [] rest (· = none) := by
  intro c hc
  obtain ⟨place, hmiss⟩ := h c hc
  exact ⟨none, c, by rw [Toml.maybe, hmiss], hc, rfl⟩

/-- Looking ahead takes nothing. -/
lemma Reads.peek (h : Reads r text rest P) : Reads (peek r) [] (text ++ rest) fun _ => True := by
  intro c hc
  obtain ⟨a, next, hdone, -⟩ := h c hc
  exact ⟨(), c, by rw [Toml.peek, hdone], hc, trivial⟩

/-- Looking ahead misses what the reader misses. -/
lemma Misses.peek (h : Misses r text) : Misses (peek r) text := by
  intro c hc
  obtain ⟨place, hmiss⟩ := h c hc
  exact ⟨c, by rw [Toml.peek, hmiss]⟩

/-- What is read is accepted if all that has its property is. -/
lemma Reads.checked {accept : α → Option β} (h : Reads r text rest P)
    (haccept : ∀ a, P a → ∃ b, accept a = some b ∧ Q b) :
    Reads (checked r accept) text rest Q := by
  intro c hc
  obtain ⟨a, next, hdone, hrest, ha⟩ := h c hc
  obtain ⟨b, haccepted, hb⟩ := haccept a ha
  exact ⟨b, next, by rw [Toml.checked, hdone]; simp only [haccepted], hrest, hb⟩

/-- Keeping the place of what is read does not change it. -/
lemma Reads.spanned (h : Reads r text rest P) :
    Reads (spanned r) text rest fun p => P p.1 := by
  intro c hc
  obtain ⟨a, next, hdone, hrest, ha⟩ := h c hc
  exact ⟨_, next, by rw [Toml.spanned, hdone], hrest, ha⟩

/-! ## Characters -/

/-- A text that does not begin with a character of a kind. -/
def Stops (p : Char → Bool) (text : List Char) : Prop := ∀ x ∈ text.head?, p x = false

/-- At the end of a text any run of characters stops. -/
lemma stops_nil {p : Char → Bool} : Stops p [] := fun _ hx => by cases hx

/-- A run stops in front of a character that does not belong to it. -/
lemma stops_cons {p : Char → Bool} {x : Char} (h : p x = false) (xs : List Char) :
    Stops p (x :: xs) := by
  intro y hy
  obtain rfl : x = y := by simpa using hy
  exact h

/-- Behind the characters of a text the rest is left. -/
lemma Cursor.rest_drop {c : Cursor} (hc : c.rest = text ++ rest) :
    (c.drop text.length).rest = rest := by
  rw [drop, hc, List.drop_left]

/-- A character that is asked for is read. -/
lemma reads_charWhere {p : Char → Bool} {x : Char} (hx : p x = true) :
    Reads (charWhere p) [x] rest (· = x) := by
  intro c hc
  refine ⟨x, c.advance, ?_, c.rest_drop hc, rfl⟩
  rw [charWhere, hc]
  exact if_pos hx

/-- A character that is not asked for is missed. -/
lemma Stops.misses_charWhere {p : Char → Bool} (h : Stops p text) : Misses (charWhere p) text := by
  intro c hc
  refine ⟨c, ?_⟩
  rw [charWhere, hc]
  cases text with
  | nil => rfl
  | cons x xs => exact if_neg (by rw [h x rfl]; decide)

/-- A symbol is read where it stands. -/
lemma reads_symbol (x : Char) (rest : List Char) : Reads (symbol x) [x] rest (· = x) :=
  reads_charWhere (beq_self_eq_true x)

/-- A symbol is missed where it does not stand. -/
lemma misses_symbol {x : Char} (h : text.head? ≠ some x) : Misses (symbol x) text := by
  refine Stops.misses_charWhere fun y hy => ?_
  rw [beq_eq_false_iff_ne]
  rintro rfl
  exact h hy

/-- A word is read where it stands. -/
lemma reads_literal (text rest : List Char) : Reads (literal text) text rest (· = text) := by
  intro c hc
  refine ⟨text, c.drop text.length, ?_, c.rest_drop hc, rfl⟩
  rw [literal, hc, List.take_left, if_pos rfl]

/-- A word is missed where it does not stand. -/
lemma misses_literal (h : ¬ text <+: more) : Misses (literal text) more := by
  intro c hc
  refine ⟨c, ?_⟩
  rw [literal, hc, if_neg]
  intro htake
  exact h (List.prefix_iff_eq_take.mpr htake.symm)

/-- A run of characters is taken up to where it stops. -/
lemma Stops.takeWhile_append {p : Char → Bool} (hrest : Stops p rest)
    (htext : ∀ x ∈ text, p x = true) : (text ++ rest).takeWhile p = text := by
  rw [List.takeWhile_append_of_pos htext]
  cases rest with
  | nil => simp
  | cons x xs => rw [List.takeWhile_cons, hrest x rfl]; simp

/-- A run of characters is read as a whole. -/
lemma reads_charsWhere {p : Char → Bool} (htext : ∀ x ∈ text, p x = true) (hrest : Stops p rest) :
    Reads (charsWhere p) text rest (· = text) := by
  intro c hc
  refine ⟨text, c.drop text.length, ?_, c.rest_drop hc, rfl⟩
  rw [charsWhere, hc, hrest.takeWhile_append htext]

/-- A run of characters is also read as a whole where it must not be empty. -/
lemma reads_someWhere {p : Char → Bool} (htext : ∀ x ∈ text, p x = true) (hne : text ≠ [])
    (hrest : Stops p rest) : Reads (someWhere p) text rest (· = text) := by
  intro c hc
  refine ⟨text, c.drop text.length, ?_, c.rest_drop hc, rfl⟩
  rw [someWhere, hc, hrest.takeWhile_append htext]
  exact if_neg (by simpa using hne)

/-- An empty run is missed where a run must not be empty. -/
lemma Stops.misses_someWhere {p : Char → Bool} (h : Stops p text) : Misses (someWhere p) text := by
  intro c hc
  have hnone : ([] ++ text).takeWhile p = [] := h.takeWhile_append nofun
  refine ⟨c, ?_⟩
  rw [someWhere, hc, ← List.nil_append text, hnone]
  rfl

/-- Blanks are read up to the first character that is none. -/
lemma reads_blanks (htext : ∀ x ∈ text, isBlank x = true) (hrest : Stops isBlank rest) :
    Reads blanks text rest fun _ => True :=
  (reads_charsWhere htext hrest).bind_pure fun _ _ => trivial

/-- No blanks stand where something else does. -/
lemma reads_noBlanks (hrest : Stops isBlank rest) : Reads blanks [] rest fun _ => True :=
  reads_blanks (List.forall_mem_nil _) hrest

/-! ## Ends of lines -/

/-- A line feed is read as the end of a line. -/
lemma reads_newline (rest : List Char) : Reads newline ['\n'] rest fun _ => True := by
  intro c hc
  refine ⟨(), c.advance, ?_, c.rest_drop hc, trivial⟩
  rw [newline, hc]
  rfl

/-- Only a line feed or a carriage return ends a line. -/
lemma misses_newline {x : Char} (hfeed : x ≠ '\n') (hreturn : x ≠ '\r') (xs : List Char) :
    Misses newline (x :: xs) := by
  intro c hc
  refine ⟨c.advance, ?_⟩
  rw [newline, hc]
  split
  · rename_i heq
    exact absurd (List.cons.inj heq).1 hfeed
  · rename_i heq
    exact absurd (List.cons.inj heq).1 hreturn
  · rfl
  · rename_i heq
    cases heq

/-! ## Repetitions -/

/-- Values of several kinds, one by one. -/
abbrev Each (as : List α) (Ps : List (α → Prop)) : Prop := List.Forall₂ (fun a P => P a) as Ps

/-- The kinds of certain values. -/
abbrev only (as : List α) : List (α → Prop) := as.map fun a => (· = a)

/-- Values that are each expected to be one value are these values. -/
lemma each_only {as bs : List α} : Each as (only bs) ↔ as = bs := by
  rw [Each, only, List.forall₂_map_right_iff, List.forall₂_eq_eq_eq]

/-- A reader that is repeated takes `text` in front of `rest`, round by round, and then finds
nothing. -/
inductive ReadsMany (r : Reader α) (rest : List Char) : List Char → List (α → Prop) → Prop
  | nil (h : Misses r rest) : ReadsMany r rest [] []
  | cons {text more : List Char} {P : α → Prop} {Ps : List (α → Prop)}
      (h : Reads r text (more ++ rest) P) (hne : text ≠ []) (hmore : ReadsMany r rest more Ps) :
      ReadsMany r rest (text ++ more) (P :: Ps)

namespace ReadsMany

variable {Ps : List (α → Prop)}

/-- Every round takes at least one character, so there are rounds enough. -/
lemma within (h : ReadsMany r rest text Ps) {rounds : Nat} (hrounds : text.length < rounds) :
    Reads (repeatedWithin r rounds) text rest fun as => Each as Ps := by
  induction h generalizing rounds with
  | nil hmisses =>
    intro c hc
    obtain ⟨place, hmiss⟩ := hmisses c hc
    cases rounds with
    | zero => cases hrounds
    | succ rounds => exact ⟨[], c, by rw [repeatedWithin]; simp only [hmiss], hc, .nil⟩
  | @cons text more P Ps h hne hmore ih =>
    intro c hc
    cases rounds with
    | zero => cases hrounds
    | succ rounds =>
      have hlength : more.length < rounds := by
        have hpos := List.length_pos_iff.mpr hne
        rw [List.length_append] at hrounds
        omega
      obtain ⟨a, c₁, hdone, hrest, ha⟩ := h c (by rw [hc, List.append_assoc])
      obtain ⟨others, c₂, hdone₂, hrest₂, hothers⟩ := ih hlength c₁ hrest
      refine ⟨a :: others, c₂, ?_, hrest₂, .cons ha hothers⟩
      rw [repeatedWithin]
      simp only [hdone, hdone₂, Outcome.andThen]

/-- **A reader that is repeated** takes what it takes round by round. -/
lemma repeated (h : ReadsMany r rest text Ps) :
    Reads (repeated r) text rest fun as => Each as Ps := by
  intro c hc
  refine h.within ?_ c hc
  rw [hc, List.length_append]
  omega

/-- What is taken by at least one round. -/
lemma repeatedOnce (h : ReadsMany r rest text Ps) (hne : text ≠ []) :
    Reads (repeatedOnce r) text rest fun as => Each as Ps := by
  cases h with
  | nil hmisses => exact absurd rfl hne
  | cons hfirst hne hmore =>
    exact hfirst.bind fun a ha => hmore.repeated.bind_pure fun others hothers => .cons ha hothers

end ReadsMany

end CodeCatalog.Toml
