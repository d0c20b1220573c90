import Mathlib.Tactic.Set
import CodeCatalog.Proofs.Json.Scalars

/-!
# Values, written and read back

A reader reads a text as a value if it does so wherever the text stands, behind any blanks and in
front of anything that can follow a value. Arrays and objects in any layout are read as soon as
their parts are, so every value within the limits of the format is read back as it was written.

## Main definitions

* `CodeCatalog.Json.Reads` — a reader reads a text as a value.
* `CodeCatalog.Json.inLayout` — texts one after the other in a layout.
* `CodeCatalog.Json.StepsRead` — what the members of an object do to a state.
* `CodeCatalog.Json.Value.Fits` — values within the limits of the format.

## Main results

* `CodeCatalog.Json.arrayOf_inLayout`, `objectWith_inLayout` — arrays and objects are read part
  by part.
* `CodeCatalog.Json.Value.Fits.reads` — a value within the limits is read back, in every layout
  and at every level.
-/

namespace CodeCatalog.Json

/-! ## Reading a text as a value -/

section Reads

variable {α : Type}

/-- A reader reads a text as a value, behind any blanks and in front of anything that can follow
a value. The text begins with something that does not end an array. -/
structure Reads (read : Reader α) (text : List Char) (a : α) : Prop where
  begins : ∃ x xs, text = x :: xs ∧ ¬ isBlank x ∧ x ≠ ']'
  reads : ∀ before blanks rest, (∀ x ∈ blanks, isBlank x) → Delimits rest →
    ∃ before', read ⟨before, blanks ++ (text ++ rest)⟩ = .ok (a, ⟨before', rest⟩)

/-- Without blanks in front. -/
lemma Reads.here {read : Reader α} {text : List Char} {a : α} (h : Reads read text a)
    (before : List Char) {rest : List Char} (hrest : Delimits rest) :
    ∃ before', read ⟨before, text ++ rest⟩ = .ok (a, ⟨before', rest⟩) :=
  h.reads before [] rest (by simp) hrest

/-- A reader that goes to the begin of a value first needs to be followed from there only. -/
lemma Reads.of_beginValue {read : Char → Reader α} {x : Char} {xs : List Char} {a : α}
    (hblank : ¬ isBlank x) (hclose : x ≠ ']')
    (h : ∀ before rest, Delimits rest →
      ∃ before', read x ⟨before, x :: (xs ++ rest)⟩ = .ok (a, ⟨before', rest⟩)) :
    Reads (beginValue read) (x :: xs) a where
  begins := ⟨x, xs, rfl, hblank, hclose⟩
  reads := by
    intro before blanks rest hblanks hrest
    obtain ⟨before', hread⟩ := h (blanks.reverse ++ before) rest hrest
    refine ⟨before', ?_⟩
    simp only [beginValue, List.cons_append, Cursor.skipBlanks_append hblanks hblank, hread]

end Reads

/-! ## Texts in a layout -/

/-- Texts one after the other, with commas between them and gaps in front of them. -/
def inLayout (l : Layout) (level : Nat) (isFirst : Bool) : List (List Char) → List Char
  | [] => []
  | t :: ts => l.lead level isFirst ++ (t ++ inLayout l level false ts)

/-- Items are written one after the other. -/
lemma writeItems_eq (l : Layout) (level : Nat) (isFirst : Bool) (vs : List Value) :
    writeItems l level isFirst vs = inLayout l level isFirst (vs.map (·.write l level)) := by
  induction vs generalizing isFirst with
  | nil => rfl
  | cons v vs ih => simp only [writeItems, List.map_cons, inLayout, ih]

/-- The members of an object as keys with the texts behind them. -/
def memberTexts (l : Layout) (level : Nat) (ms : List (String × Value)) :
    List (String × List Char) :=
  ms.map fun m => (m.1, ':' :: (l.pad ++ m.2.write l level))

/-- The text of a member. -/
def memberText (m : String × List Char) : List Char := stringText m.1 ++ m.2

/-- Members are written one after the other. -/
lemma writeMembers_eq (l : Layout) (level : Nat) (isFirst : Bool) (ms : List (String × Value)) :
    writeMembers l level isFirst ms =
      inLayout l level isFirst ((memberTexts l level ms).map memberText) := by
  induction ms generalizing isFirst with
  | nil => rfl
  | cons m ms ih =>
    simp only [memberTexts] at ih
    simp only [writeMembers, memberTexts, List.map_cons, inLayout, memberText, ih,
      List.append_assoc, List.cons_append]

/-- What stands behind the last item is blank. -/
lemma Layout.tail_blank (l : Layout) (level : Nat) (isEmpty : Bool) :
    ∀ x ∈ l.tail level isEmpty, isBlank x := by
  intro x hx
  unfold Layout.tail at hx
  split at hx
  · cases hx
  · exact l.gap_blank level x hx

/-- Behind an item the next one or the end of all items can follow. -/
lemma delimits_inLayout (l : Layout) (level : Nat) (ts : List (List Char)) {rest : List Char}
    (hrest : Delimits rest) : Delimits (inLayout l level false ts ++ rest) := by
  cases ts with
  | nil => exact hrest
  | cons t ts => exact delimits_cons (Or.inl rfl)

/-- Texts that are not empty are at least as long as there are many. -/
lemma length_le_length_inLayout (l : Layout) (level : Nat) (isFirst : Bool)
    {ts : List (List Char)} (hts : ∀ t ∈ ts, t ≠ []) :
    ts.length ≤ (inLayout l level isFirst ts).length := by
  induction ts generalizing isFirst with
  | nil => exact Nat.le_refl 0
  | cons t ts ih =>
    have ht : 0 < t.length := List.length_pos_iff.mpr (hts t List.mem_cons_self)
    have hrest := ih false fun t' ht' => hts t' (List.mem_cons_of_mem t ht')
    simp only [inLayout, List.length_cons, List.length_append]
    omega

/-! ## Arrays -/

section Arrays

variable {α : Type} {item : Reader α} (l : Layout) (level : Nat)

/-- In front of an item the array goes on. -/
lemma nextItem_lead (isFirst : Bool) {x : Char} (hblank : ¬ isBlank x) (hclose : x ≠ ']')
    (before xs : List Char) :
    ∃ before', nextItem isFirst ⟨before, l.lead level isFirst ++ x :: xs⟩ =
      .ok (true, ⟨before', x :: xs⟩) := by
  cases isFirst with
  | true =>
    refine ⟨(l.gap level).reverse ++ before, ?_⟩
    simp only [Layout.lead, if_true, List.nil_append, nextItem,
      Cursor.skipBlanks_append (l.gap_blank level) hblank, hclose, if_false]
  | false =>
    refine ⟨(l.gap level).reverse ++ ',' :: before, ?_⟩
    simp only [Layout.lead, Bool.false_eq_true, if_false, List.cons_append, List.nil_append,
      nextItem, Cursor.skipBlanks_cons (show ¬ isBlank ',' by decide), Char.reduceEq, if_true,
      Cursor.advance, Cursor.skipBlanks_append (l.gap_blank level) hblank, hclose]

/-- At the closing bracket the array ends. -/
lemma nextItem_close (isFirst : Bool) {blanks : List Char} (hblanks : ∀ x ∈ blanks, isBlank x)
    (before rest : List Char) :
    nextItem isFirst ⟨before, blanks ++ ']' :: rest⟩ =
      .ok (false, ⟨blanks.reverse ++ before, ']' :: rest⟩) := by
  simp only [nextItem, Cursor.skipBlanks_append hblanks (show ¬ isBlank ']' by decide), if_true]

variable {text : α → List Char} {as : List α} (h : ∀ a ∈ as, Reads item (text a) a)

include h in
/-- Items are read one after the other, up to the closing bracket.

**Proof sketch.** Induction on the items. In front of each the array goes on
(`nextItem_lead`), the item is read up to what follows it, and behind the last one stands the
bracket (`nextItem_close`). -/
lemma items_inLayout {blanks : List Char} (hblanks : ∀ x ∈ blanks, isBlank x) (rest : List Char)
    {fuel : Nat} (hfuel : as.length < fuel) (isFirst : Bool) (taken : List α)
    (before : List Char) :
    ∃ before', items item fuel isFirst taken
        ⟨before, inLayout l level isFirst (as.map text) ++ (blanks ++ ']' :: rest)⟩ =
      .ok (taken.reverse ++ as, ⟨before', ']' :: rest⟩) := by
  induction as generalizing fuel isFirst taken before with
  | nil =>
    obtain ⟨fuel, rfl⟩ : ∃ k, fuel = k + 1 := ⟨fuel - 1, by simp at hfuel; omega⟩
    refine ⟨blanks.reverse ++ before, ?_⟩
    simp only [List.map_nil, inLayout, List.nil_append, items, nextItem_close isFirst hblanks,
      List.append_nil]
  | cons a as ih =>
    rw [List.length_cons] at hfuel
    obtain ⟨fuel, rfl⟩ : ∃ k, fuel = k + 1 := ⟨fuel - 1, by omega⟩
    have hdelimits : Delimits (inLayout l level false (as.map text) ++ (blanks ++ ']' :: rest)) :=
      delimits_inLayout l level _
        (Delimits.append_blanks hblanks (delimits_cons (Or.inr (Or.inl rfl))))
    have ha := h a List.mem_cons_self
    obtain ⟨x, xs, htext, hblank, hclose⟩ := ha.begins
    obtain ⟨before₁, hnext⟩ := nextItem_lead l level isFirst hblank hclose before
      (xs ++ (inLayout l level false (as.map text) ++ (blanks ++ ']' :: rest)))
    obtain ⟨before₂, hitem⟩ := ha.here before₁ hdelimits
    obtain ⟨before₃, hrest⟩ := ih (fun b hb => h b (List.mem_cons_of_mem a hb))
      (by omega : as.length < fuel) false (a :: taken) before₂
    refine ⟨before₃, ?_⟩
    rw [htext, List.cons_append] at hitem
    simp only [List.map_cons, inLayout, htext, List.append_assoc, List.cons_append, items, hnext,
      hitem, hrest, List.reverse_cons, List.nil_append]

include h in
/-- **An array is read item by item**, in every layout. -/
lemma arrayOf_inLayout {blanks : List Char} (hblanks : ∀ x ∈ blanks, isBlank x)
    (before rest : List Char) :
    ∃ before', arrayOf item
        ⟨before, '[' :: (inLayout l level true (as.map text) ++ (blanks ++ ']' :: rest))⟩ =
      .ok (as, ⟨before', rest⟩) := by
  have hne : ∀ t ∈ as.map text, t ≠ [] := by
    intro t ht
    obtain ⟨a, ha, rfl⟩ := List.mem_map.mp ht
    obtain ⟨x, xs, htext, -, -⟩ := (h a ha).begins
    simp [htext]
  have hlength := length_le_length_inLayout l level true hne
  set body := inLayout l level true (as.map text) ++ (blanks ++ ']' :: rest) with hbody
  have hfuel : as.length < ('[' :: body).length + 1 := by
    rw [List.length_map] at hlength
    simp only [hbody, List.length_cons, List.length_append]
    omega
  obtain ⟨before', hitems⟩ := items_inLayout l level h hblanks rest hfuel true [] ('[' :: before)
  refine ⟨']' :: before', ?_⟩
  rw [← hbody] at hitems
  simp only [arrayOf, Cursor.advance, hitems, closing, closeArray,
    Cursor.skipBlanks_cons (show ¬ isBlank ']' by decide), if_true, List.reverse_nil,
    List.nil_append]

end Arrays

/-! ## Objects -/

section Objects

variable {σ α : Type} {step : σ → String → Reader σ} (l : Layout) (level : Nat)

/-- In front of a key the object goes on. -/
lemma nextKey_lead (isFirst : Bool) (before xs : List Char) :
    ∃ before', nextKey isFirst ⟨before, l.lead level isFirst ++ '"' :: xs⟩ =
      .ok (true, ⟨before', '"' :: xs⟩) := by
  have hquote : ¬ isBlank '"' := by decide
  cases isFirst with
  | true =>
    refine ⟨(l.gap level).reverse ++ before, ?_⟩
    simp only [Layout.lead, if_true, List.nil_append, nextKey,
      Cursor.skipBlanks_append (l.gap_blank level) hquote, Char.reduceEq, if_false]
  | false =>
    refine ⟨(l.gap level).reverse ++ ',' :: before, ?_⟩
    simp only [Layout.lead, Bool.false_eq_true, if_false, List.cons_append, List.nil_append,
      nextKey, Cursor.skipBlanks_cons (show ¬ isBlank ',' by decide), Char.reduceEq, if_true,
      Cursor.advance, Cursor.skipBlanks_append (l.gap_blank level) hquote]

/-- At the closing brace the object ends. -/
lemma nextKey_close (isFirst : Bool) {blanks : List Char} (hblanks : ∀ x ∈ blanks, isBlank x)
    (before rest : List Char) :
    nextKey isFirst ⟨before, blanks ++ '\x7d' :: rest⟩ =
      .ok (false, ⟨blanks.reverse ++ before, '\x7d' :: rest⟩) := by
  simp only [nextKey, Cursor.skipBlanks_append hblanks (show ¬ isBlank '\x7d' by decide), if_true]

/-- What the members of an object do to a state, one after the other. A member is a key with the
text behind it. -/
inductive StepsRead (step : σ → String → Reader σ) : σ → List (String × List Char) → σ → Prop
  | nil (s : σ) : StepsRead step s [] s
  | cons {s s₁ s₂ : σ} {key : String} {body : List Char} {ms : List (String × List Char)}
      (first : ∀ before rest, Delimits rest →
        ∃ before', step s key ⟨before, body ++ rest⟩ = .ok (s₁, ⟨before', rest⟩))
      (others : StepsRead step s₁ ms s₂) : StepsRead step s ((key, body) :: ms) s₂

/-- Members that are read one after the other may be read in two parts. -/
lemma StepsRead.append {s s₁ s₂ : σ} {ms ms' : List (String × List Char)}
    (h : StepsRead step s ms s₁) (h' : StepsRead step s₁ ms' s₂) :
    StepsRead step s (ms ++ ms') s₂ := by
  induction h with
  | nil s => exact h'
  | cons first _ ih => exact .cons first (ih h')

/-- Members are read one after the other, up to the closing brace. -/
lemma members_inLayout {s s' : σ} {ms : List (String × List Char)} (h : StepsRead step s ms s')
    {blanks : List Char} (hblanks : ∀ x ∈ blanks, isBlank x) (rest : List Char) {fuel : Nat}
    (hfuel : ms.length < fuel) (isFirst : Bool) (before : List Char) :
    ∃ before', members step fuel isFirst s
        ⟨before, inLayout l level isFirst (ms.map memberText) ++ (blanks ++ '\x7d' :: rest)⟩ =
      .ok (s', ⟨before', '\x7d' :: rest⟩) := by
  induction h generalizing fuel isFirst before with
  | nil s =>
    obtain ⟨fuel, rfl⟩ : ∃ k, fuel = k + 1 := ⟨fuel - 1, by simp at hfuel; omega⟩
    refine ⟨blanks.reverse ++ before, ?_⟩
    simp only [List.map_nil, inLayout, List.nil_append, members, nextKey_close isFirst hblanks]
  | @cons s s₁ s₂ key body ms first others ih =>
    rw [List.length_cons] at hfuel
    obtain ⟨fuel, rfl⟩ : ∃ k, fuel = k + 1 := ⟨fuel - 1, by omega⟩
    set more := inLayout l level false (ms.map memberText) ++ (blanks ++ '\x7d' :: rest)
      with hmore
    have hdelimits : Delimits more :=
      delimits_inLayout l level _
        (Delimits.append_blanks hblanks (delimits_cons (Or.inr (Or.inr (Or.inl rfl)))))
    obtain ⟨before₁, hnext⟩ := nextKey_lead l level isFirst before
      (key.toList.flatMap escapeChar ++ ['"'] ++ (body ++ more))
    obtain ⟨before₂, hkey⟩ := string_stringText true key before₁ (body ++ more)
    obtain ⟨before₃, hstep⟩ := first before₂ more hdelimits
    obtain ⟨before₄, hrest⟩ := ih (by omega : ms.length < fuel) false before₃
    refine ⟨before₄, ?_⟩
    rw [← hmore] at hrest
    have hnext' : nextKey isFirst ⟨before, l.lead level isFirst ++
        (stringText key ++ (body ++ more))⟩ =
          .ok (true, ⟨before₁, stringText key ++ (body ++ more)⟩) := hnext
    simp only [List.map_cons, inLayout, memberText, List.append_assoc, members, ← hmore, hnext',
      hkey, hstep, hrest]

/-- **An object is read member by member**, in every layout. -/
lemma objectWith_inLayout {s s' : σ} {ms : List (String × List Char)}
    (h : StepsRead step s ms s') (finish : σ → Except String α) {a : α}
    (hfinish : finish s' = .ok a) {blanks : List Char} (hblanks : ∀ x ∈ blanks, isBlank x)
    (before rest : List Char) :
    ∃ before', objectWith step s finish ⟨before, '\x7b' ::
        (inLayout l level true (ms.map memberText) ++ (blanks ++ '\x7d' :: rest))⟩ =
      .ok (a, ⟨before', rest⟩) := by
  have hne : ∀ t ∈ ms.map memberText, t ≠ [] := by
    intro t ht
    obtain ⟨m, -, rfl⟩ := List.mem_map.mp ht
    simp [memberText, stringText]
  have hlength := length_le_length_inLayout l level true hne
  set body := inLayout l level true (ms.map memberText) ++ (blanks ++ '\x7d' :: rest) with hbody
  have hfuel : ms.length < ('\x7b' :: body).length + 1 := by
    rw [List.length_map] at hlength
    simp only [hbody, List.length_cons, List.length_append]
    omega
  obtain ⟨before', hmembers⟩ := members_inLayout l level h hblanks rest hfuel true
    ('\x7b' :: before)
  refine ⟨'\x7d' :: before', ?_⟩
  rw [← hbody] at hmembers
  simp only [objectWith, Cursor.advance, hmembers, hfinish, closing, closeObject,
    Cursor.skipBlanks_cons (show ¬ isBlank '\x7d' by decide), if_true]

/-- A value behind a colon is read behind any blanks. -/
lemma behindColon_reads {read : Reader α} {text : List Char} {a : α} (h : Reads read text a)
    (before : List Char) {rest : List Char} (hrest : Delimits rest) :
    ∃ before', behindColon read ⟨before, ':' :: (l.pad ++ text) ++ rest⟩ =
      .ok (a, ⟨before', rest⟩) := by
  obtain ⟨before', hread⟩ := h.reads (':' :: before) l.pad rest l.pad_blank hrest
  refine ⟨before', ?_⟩
  rw [List.cons_append, List.append_assoc]
  simp only [behindColon, colon, Cursor.skipBlanks_cons (show ¬ isBlank ':' by decide),
    Cursor.advance, if_true, hread]

end Objects

/-! ## Values -/

/-- Values within the limits of the format: no array or object is nested deeper than a depth, and
every number is a whole number of 64 bits. -/
inductive Value.Fits : Nat → Value → Prop
  | null (depth : Nat) : Fits depth .null
  | bool (depth : Nat) (b : Bool) : Fits depth (.bool b)
  | natural (depth : Nat) {n : Nat} (h : n ≤ maxNatural) : Fits depth (.number (.natural n))
  | negative (depth : Nat) {n : Nat} (hpos : 0 < n) (h : n ≤ 9223372036854775808) :
      Fits depth (.number (.negative n))
  | string (depth : Nat) (s : String) : Fits depth (.string s)
  | array {depth : Nat} {vs : List Value} (h : ∀ v ∈ vs, Fits depth v) :
      Fits (depth + 1) (.array vs)
  | object {depth : Nat} {ms : List (String × Value)} (h : ∀ m ∈ ms, Fits depth m.2) :
      Fits (depth + 1) (.object ms)

/-- Blanks in front of a value are passed over. -/
lemma value_blanks (depth : Nat) {blanks : List Char} (hblanks : ∀ x ∈ blanks, isBlank x)
    {x : Char} (hx : ¬ isBlank x) (before xs : List Char) :
    value depth ⟨before, blanks ++ x :: xs⟩ =
      value depth ⟨blanks.reverse ++ before, x :: xs⟩ := by
  rw [value.eq_def, value.eq_def depth ⟨_, x :: xs⟩]
  simp only [Cursor.skipBlanks_append hblanks hx, Cursor.skipBlanks_cons hx]

/-- A value needs to be followed from its first character only. -/
lemma Reads.of_value {depth : Nat} {x : Char} {xs : List Char} {v : Value}
    (hblank : ¬ isBlank x) (hclose : x ≠ ']')
    (h : ∀ before rest, Delimits rest →
      ∃ before', value depth ⟨before, x :: (xs ++ rest)⟩ = .ok (v, ⟨before', rest⟩)) :
    Reads (value depth) (x :: xs) v where
  begins := ⟨x, xs, rfl, hblank, hclose⟩
  reads := by
    intro before blanks rest hblanks hrest
    rw [List.cons_append, value_blanks depth hblanks hblank]
    exact h (blanks.reverse ++ before) rest hrest

/-- A digit is neither a blank nor a bracket, and begins no word. -/
lemma not_isBlank_of_isDigit {x : Char} (hx : x.isDigit) :
    ¬ isBlank x ∧ x ≠ ']' ∧ x ≠ 'n' ∧ x ≠ 't' ∧ x ≠ 'f' := by
  refine ⟨?_, ?_, ?_, ?_, ?_⟩
  · simp only [isBlank, Bool.or_eq_true, beq_iff_eq]
    rintro (((rfl | rfl) | rfl) | rfl) <;> exact absurd hx (by decide)
  all_goals
    rintro rfl
    exact absurd hx (by decide)

section Scalars

variable (depth : Nat)

/-- The value that is no value is read back. -/
lemma reads_null : Reads (value depth) ['n', 'u', 'l', 'l'] .null := by
  refine .of_value (by decide) (by decide) fun before rest _ =>
    ⟨'l' :: 'l' :: 'u' :: 'n' :: before, ?_⟩
  rw [value.eq_def]
  rfl

/-- A truth value is read back. -/
lemma reads_bool (b : Bool) (l : Layout) (level : Nat) :
    Reads (value depth) ((Value.bool b).write l level) (.bool b) := by
  cases b with
  | true =>
    refine .of_value (by decide) (by decide) fun before rest _ =>
      ⟨'e' :: 'u' :: 'r' :: 't' :: before, ?_⟩
    rw [value.eq_def]
    rfl
  | false =>
    refine .of_value (by decide) (by decide) fun before rest _ =>
      ⟨'e' :: 's' :: 'l' :: 'a' :: 'f' :: before, ?_⟩
    rw [value.eq_def]
    rfl

/-- A number is read where it begins with a digit or a sign. -/
lemma value_number {x : Char} (hx : x = '-' ∨ x.isDigit) (before xs : List Char) :
    value depth ⟨before, x :: xs⟩ =
      (number ⟨before, x :: xs⟩).map fun r => (.number r.1, r.2) := by
  obtain ⟨hblank, -, hn, ht, hf⟩ : ¬ isBlank x ∧ x ≠ ']' ∧ x ≠ 'n' ∧ x ≠ 't' ∧ x ≠ 'f' := by
    rcases hx with rfl | hx
    · decide
    · exact not_isBlank_of_isDigit hx
  rw [value.eq_def]
  simp only [Cursor.skipBlanks_cons hblank, hn, ht, hf, if_false, hx, if_true]

/-- A whole number of 64 bits is read back. -/
lemma reads_natural {n : Nat} (hn : n ≤ maxNatural) :
    Reads (value depth) (natText n) (.number (.natural n)) := by
  obtain ⟨x, xs, htext, hdigit⟩ := natText_eq_cons n
  obtain ⟨hblank, hclose, -⟩ := not_isBlank_of_isDigit hdigit
  rw [htext]
  refine .of_value hblank hclose fun before rest hrest => ?_
  obtain ⟨before', hread⟩ := number_natText hn hrest before
  refine ⟨before', ?_⟩
  rw [htext, List.cons_append] at hread
  rw [value_number depth (Or.inr hdigit), hread]
  rfl

/-- A negative number of 64 bits is read back. -/
lemma reads_negative {n : Nat} (hpos : 0 < n) (hn : n ≤ 9223372036854775808) :
    Reads (value depth) ('-' :: natText n) (.number (.negative n)) := by
  refine .of_value (by decide) (by decide) fun before rest hrest => ?_
  obtain ⟨before', hread⟩ := number_negative hpos hn hrest before
  refine ⟨before', ?_⟩
  rw [value_number depth (Or.inl rfl), hread]
  rfl

/-- A text is read back. -/
lemma reads_string (s : String) : Reads (value depth) (stringText s) (.string s) := by
  refine .of_value (by decide) (by decide) fun before rest _ => ?_
  obtain ⟨before', hread⟩ := string_stringText true s before rest
  refine ⟨before', ?_⟩
  change string true ⟨before, '"' :: (s.toList.flatMap escapeChar ++ ['"'] ++ rest)⟩ = _ at hread
  rw [value.eq_def]
  simp only [Cursor.skipBlanks_cons (show ¬ isBlank '"' by decide), Char.reduceEq, if_false,
    if_true, hread]
  rfl

end Scalars

section Nested

variable {depth : Nat} (l : Layout) (level : Nat)

/-- An array is read back if its items are, one level deeper. -/
lemma reads_array {vs : List Value}
    (h : ∀ v ∈ vs, Reads (value depth) (v.write l (level + 1)) v) :
    Reads (value (depth + 1)) ((Value.array vs).write l level) (.array vs) := by
  rw [Value.write, writeItems_eq]
  refine .of_value (by decide) (by decide) fun before rest _ => ?_
  obtain ⟨before', hread⟩ :=
    arrayOf_inLayout l (level + 1) h (l.tail_blank level vs.isEmpty) before rest
  refine ⟨before', ?_⟩
  rw [value.eq_def]
  simp only [Cursor.skipBlanks_cons (show ¬ isBlank '[' by decide), Char.reduceEq, if_false,
    if_true, List.append_assoc, List.singleton_append, hread]
  rfl

/-- **Members are collected in order** by every step that puts what stands behind a key at the
end of the members of its state. -/
lemma stepsRead_collect {σ : Type} {step : σ → String → Reader σ}
    (collected : List (String × Value) → σ) {ms : List (String × Value)}
    (hstep : ∀ m ∈ ms, ∀ taken c, step (collected taken) m.1 c =
      (behindColon (value depth) c).map fun r => (collected (taken ++ [(m.1, r.1)]), r.2))
    (hreads : ∀ m ∈ ms, Reads (value depth) (m.2.write l level) m.2)
    (taken : List (String × Value)) :
    StepsRead step (collected taken) (memberTexts l level ms) (collected (taken ++ ms)) := by
  induction ms generalizing taken with
  | nil =>
    rw [List.append_nil]
    exact .nil (collected taken)
  | cons m ms ih =>
    have hrest := ih (fun m' hm' => hstep m' (List.mem_cons_of_mem m hm'))
      (fun m' hm' => hreads m' (List.mem_cons_of_mem m hm')) (taken ++ [m])
    rw [List.append_assoc, List.singleton_append] at hrest
    refine .cons (fun before rest hdelimits => ?_) hrest
    obtain ⟨before', hread⟩ := behindColon_reads l (hreads m List.mem_cons_self) before hdelimits
    exact ⟨before', by rw [hstep m List.mem_cons_self, hread]; rfl⟩

/-- An object is read back if its members are, one level deeper. -/
lemma reads_object {ms : List (String × Value)}
    (h : ∀ m ∈ ms, Reads (value depth) (m.2.write l (level + 1)) m.2) :
    Reads (value (depth + 1)) ((Value.object ms).write l level) (.object ms) := by
  rw [Value.write, writeMembers_eq]
  refine .of_value (by decide) (by decide) fun before rest _ => ?_
  have hsteps : StepsRead (fun ms key c => (behindColon (value depth) c).map fun r =>
      (ms ++ [(key, r.1)], r.2)) [] (memberTexts l (level + 1) ms) ms :=
    stepsRead_collect l (level + 1) id (fun _ _ _ _ => rfl) h []
  obtain ⟨before', hread⟩ := objectWith_inLayout l (level + 1) hsteps .ok rfl
    (l.tail_blank level ms.isEmpty) before rest
  refine ⟨before', ?_⟩
  rw [value.eq_def]
  simp only [Cursor.skipBlanks_cons (show ¬ isBlank '\x7b' by decide), Char.reduceEq, if_false,
    if_true, List.append_assoc, List.singleton_append, hread]
  rfl

end Nested

/-- **A value within the limits is read back as it was written**, in every layout and at every
level. -/
theorem Value.Fits.reads {depth : Nat} {v : Value} (h : v.Fits depth) (l : Layout) (level : Nat) :
    Reads (value depth) (v.write l level) v := by
  induction h generalizing level with
  | null depth => exact reads_null depth
  | bool depth b => exact reads_bool depth b l level
  | natural depth hn => exact reads_natural depth hn
  | negative depth hpos hn => exact reads_negative depth hpos hn
  | string depth s => exact reads_string depth s
  | array _ ih => exact reads_array l level fun v hv => ih v hv (level + 1)
  | object _ ih => exact reads_object l level fun m hm => ih m hm (level + 1)

/-- Where a whole number is expected, a whole number is read. -/
lemma reads_natural_natText {n : Nat} (hn : n ≤ maxNatural) : Reads natural (natText n) n := by
  obtain ⟨x, xs, htext, hdigit⟩ := natText_eq_cons n
  obtain ⟨hblank, hclose, -⟩ := not_isBlank_of_isDigit hdigit
  rw [htext]
  refine .of_beginValue hblank hclose fun before rest hrest => ?_
  obtain ⟨before', hread⟩ := number_natText hn hrest before
  refine ⟨before', ?_⟩
  rw [htext, List.cons_append] at hread
  simp only [hdigit, or_true, if_true, hread, Number.natural?]

/-- A whole text is read if it is the text of a value, with blanks before it or not. -/
lemma Reads.readAll_append {α : Type} {read : Reader α} {text blanks : List Char} {a : α}
    (h : Reads read text a) (hblanks : ∀ x ∈ blanks, isBlank x) :
    Json.readAll read (String.ofList (blanks ++ text)) = .ok a := by
  obtain ⟨before', hread⟩ := h.reads [] blanks [] hblanks delimits_nil
  rw [List.append_nil] at hread
  simp only [Json.readAll, Cursor.ofText, String.toList_ofList, hread]
  rfl

/-- What is read from a text in front of anything is read from it as a whole. -/
lemma Reads.readAll {α : Type} {read : Reader α} {text : List Char} {a : α}
    (h : Reads read text a) : Json.readAll read (String.ofList text) = .ok a :=
  h.readAll_append (List.forall_mem_nil _)

end CodeCatalog.Json
