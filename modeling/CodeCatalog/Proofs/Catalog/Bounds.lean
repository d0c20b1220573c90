import CodeCatalog.Proofs.Catalog.RoundTrip

/-!
# The numbers of a catalog that is read

A whole number with more digits than 64 bits hold is read as a floating-point number, and those are
refused where a whole number belongs. So whatever the file says, the numbers of a catalog that is
read have 64 bits.

## Main definitions

* `CodeCatalog.Json.Yields` — a property of what has been read.
* `CodeCatalog.Json.Value.Small` — a value that is no whole number of more than 64 bits.

## Main results

* `CodeCatalog.Json.yields_natural`, `yields_value` — the numbers that are read.
* `CodeCatalog.yields_readRecords` — the records that are read.
* `CodeCatalog.Catalog.bounded_of_readFrom` — the catalogs that are read.
-/

namespace CodeCatalog

namespace Json

/-! ## Properties of what is read -/

/-- What has been read, if anything, has a property. -/
def Yields {α : Type} (P : α → Prop) (result : Except Failure (α × Cursor)) : Prop :=
  ∀ a c, result = .ok (a, c) → P a

section Yields

variable {α β σ : Type} {P : α → Prop} {Q : β → Prop} {I : σ → Prop}

/-- What is read has the property if the value at hand has it. -/
lemma yields_ok {a : α} (h : P a) (c : Cursor) : Yields P (.ok (a, c)) := by
  rintro _ _ ⟨⟩
  exact h

/-- Where reading fails, nothing has been read. -/
lemma yields_error (f : Failure) : Yields P (.error f) := by
  intro a c h
  cases h

/-- A property of what is read is handed on to what is made of it. -/
lemma Yields.map {result : Except Failure (α × Cursor)} (h : Yields P result)
    {g : α × Cursor → β × Cursor} (hg : ∀ a c, P a → Q (g (a, c)).1) : Yields Q (result.map g) := by
  cases result with
  | error e => exact yields_error e
  | ok r => exact yields_ok (hg r.1 r.2 (h _ _ rfl)) (g r).2

/-- A value that is refused is not read. -/
lemma yields_refuse (expected : String) (c : Cursor) : Yields P (refuse expected c) := by
  unfold refuse
  split
  · exact yields_error _
  · split
    · exact yields_error _
    · split
      · exact yields_error _
      · split <;> exact yields_error _

/-- Passing over blanks in front of a value does not matter. -/
lemma yields_beginValue {read : Char → Reader α} (h : ∀ x c, Yields P (read x c)) (c : Cursor) :
    Yields P (beginValue read c) := by
  unfold beginValue
  dsimp only
  split
  · exact yields_error _
  · exact h _ _

/-- Passing over a colon in front of a value does not matter. -/
lemma yields_behindColon {item : Reader α} (h : ∀ c, Yields P (item c)) (c : Cursor) :
    Yields P (behindColon item c) := by
  unfold behindColon
  split
  · exact yields_error _
  · exact h _

/-- Closing an array or object changes nothing about what has been read. -/
lemma Yields.closing {result : Except Failure (α × Cursor)} (h : Yields P result)
    (close : Cursor → Except Failure Cursor) : Yields P (closing close result) := by
  unfold Json.closing
  split
  · split
    · exact yields_ok (h _ _ rfl) _
    · exact yields_error _
  · split <;> exact yields_error _

/-- What holds of every item that is read holds of all of them. -/
lemma yields_items {item : Reader α} (h : ∀ c, Yields P (item c)) (fuel : Nat) (isFirst : Bool)
    {taken : List α} (htaken : ∀ a ∈ taken, P a) (c : Cursor) :
    Yields (fun as => ∀ a ∈ as, P a) (items item fuel isFirst taken c) := by
  induction fuel generalizing isFirst taken c with
  | zero => exact yields_error _
  | succ fuel ih =>
    unfold items
    split
    · exact yields_error _
    · exact yields_ok (fun a ha => htaken a (List.mem_reverse.mp ha)) _
    · split
      · exact yields_error _
      · rename_i a c hitem
        exact ih false (List.forall_mem_cons.mpr ⟨h _ _ _ hitem, htaken⟩) c

/-- What holds of every item that is read holds of the items of an array. -/
lemma yields_arrayOf {item : Reader α} (h : ∀ c, Yields P (item c)) (c : Cursor) :
    Yields (fun as => ∀ a ∈ as, P a) (arrayOf item c) :=
  (yields_items h _ _ (List.forall_mem_nil _) _).closing closeArray

/-- What every member keeps holds behind all members. -/
lemma yields_members {step : σ → String → Reader σ} (h : ∀ s key c, I s → Yields I (step s key c))
    (fuel : Nat) (isFirst : Bool) {s : σ} (hs : I s) (c : Cursor) :
    Yields I (members step fuel isFirst s c) := by
  induction fuel generalizing isFirst s c with
  | zero => exact yields_error _
  | succ fuel ih =>
    unfold members
    split
    · exact yields_error _
    · exact yields_ok hs _
    · split
      · exact yields_error _
      · rename_i key c hkey
        split
        · exact yields_error _
        · rename_i s' c' hmember
          exact ih false (h s key c hs _ _ hmember) c'

/-- What is made of the members that were taken in. -/
lemma yields_objectWith {step : σ → String → Reader σ} {start : σ} {finish : σ → Except String α}
    (hstep : ∀ s key c, I s → Yields I (step s key c)) (hstart : I start)
    (hfinish : ∀ s a, I s → finish s = .ok a → P a) (c : Cursor) :
    Yields P (objectWith step start finish c) := by
  refine Yields.closing ?_ closeObject
  split
  · exact yields_error _
  · rename_i s c' hmembers
    split
    · rename_i a ha
      exact yields_ok (hfinish s a (yields_members hstep _ _ hstart _ _ _ hmembers) ha) c'
    · exact yields_error _

end Yields

/-! ## Numbers -/

/-- A number that is no whole number of more than 64 bits. -/
def Number.Small : Number → Prop
  | .natural n => n ≤ maxNatural
  | _ => True

/-- A value that is no whole number of more than 64 bits. Nothing is said about what is inside of
arrays and objects. -/
def Value.Small : Value → Prop
  | .number n => n.Small
  | _ => True

/-- Digits are taken as long as the number stays within the limit. -/
lemma digitsFrom_le {limit number : Nat} (h : number ≤ limit) (count : Nat)
    (before rest : List Char) : (digitsFrom limit number count before rest).1 ≤ limit := by
  induction rest generalizing number count before with
  | nil => exact h
  | cons x xs ih =>
    unfold digitsFrom
    split
    · rename_i hdigit
      exact ih hdigit.2 _ _
    · exact h

section Floats

variable (negative : Bool) (digits : Nat) (power : Int) (c : Cursor)

/-- A number that is rounded is small. -/
lemma yields_floatOf : Yields Number.Small (floatOf negative digits power c) := by
  unfold floatOf
  split
  · exact yields_ok trivial c
  · exact yields_error _

/-- A number with an exponent is small. -/
lemma yields_exponentPart : Yields Number.Small (exponentPart negative digits power c) := by
  unfold exponentPart
  dsimp only
  split
  · exact yields_error _
  · split_ifs
    · exact yields_error _
    · exact yields_error _
    · exact yields_floatOf _ _ _ _
    · exact yields_floatOf _ _ _ _
    · exact yields_floatOf _ _ _ _

/-- A number is small, whatever follows its digits. -/
lemma yields_behindDigits : Yields Number.Small (behindDigits negative digits power c) := by
  unfold behindDigits
  split
  · exact yields_exponentPart _ _ _ _
  · exact yields_floatOf _ _ _ _

/-- A number with a fraction is small. -/
lemma yields_fractionPart : Yields Number.Small (fractionPart negative digits power c) := by
  unfold fractionPart
  dsimp only
  split
  · split <;> exact yields_error _
  · exact yields_behindDigits _ _ _ _

end Floats

/-- Behind digits that are within the limit there is no whole number beyond it. -/
lemma yields_behindWhole (negative : Bool) {whole : Nat} (h : whole ≤ maxNatural) (c : Cursor) :
    Yields Number.Small (behindWhole negative whole c) := by
  unfold behindWhole
  split
  · dsimp only
    split
    · exact yields_fractionPart _ _ _ _
    · exact yields_behindDigits _ _ _ _
  · split
    · exact yields_fractionPart _ _ _ _
    · split
      · exact yields_exponentPart _ _ _ _
      · split
        · exact yields_ok (show Number.Small (.natural whole) from h) c
        · split
          · exact yields_floatOf _ _ _ _
          · exact yields_ok trivial c

/-- A number behind its sign is small. -/
lemma yields_numberBehindSign (negative : Bool) (c : Cursor) :
    Yields Number.Small (numberBehindSign negative c) := by
  unfold numberBehindSign
  split
  · exact yields_error _
  · split
    · split
      · exact yields_error _
      · exact yields_behindWhole negative (Nat.zero_le _) _
    · split
      · exact yields_behindWhole negative (digitsFrom_le (Nat.zero_le _) _ _ _) _
      · exact yields_error _

/-- A number that is read is small. -/
lemma yields_number (c : Cursor) : Yields Number.Small (number c) := by
  unfold number
  split <;> exact yields_numberBehindSign _ _

/-- **A whole number that is read has 64 bits.** -/
lemma yields_natural (c : Cursor) : Yields (· ≤ maxNatural) (natural c) := by
  refine yields_beginValue (fun x c => ?_) c
  split
  · split
    · exact yields_error _
    · rename_i n c' hnumber
      have hsmall := yields_number c n c' hnumber
      cases n with
      | natural n => exact yields_ok (P := (· ≤ maxNatural)) hsmall c'
      | negative n => exact yields_error _
      | float bits => exact yields_error _
  · exact yields_refuse _ _

/-- A value that is read is no whole number of more than 64 bits. -/
lemma yields_value (depth : Nat) (c : Cursor) : Yields Value.Small (value depth c) := by
  have hother {α : Type} {result : Except Failure (α × Cursor)}
      {g : α × Cursor → Value × Cursor} (hg : ∀ r, (g r).1.Small) :
      Yields Value.Small (result.map g) :=
    Yields.map (P := fun _ => True) (fun _ _ _ => trivial) fun a c _ => hg (a, c)
  unfold value
  dsimp only
  split
  · exact yields_error _
  · split_ifs
    · exact hother fun _ => trivial
    · exact hother fun _ => trivial
    · exact hother fun _ => trivial
    · exact (yields_number _).map fun _ _ h => h
    · exact hother fun _ => trivial
    · split
      · exact yields_error _
      · exact hother fun _ => trivial
    · split
      · exact yields_error _
      · exact hother fun _ => trivial
    · exact yields_error _

end Json

open Json

/-! ## Units -/

/-- A whole number that is taken from a small value has 64 bits. -/
lemma naturalOf_le {v : Value} {n : Nat} (hv : v.Small) (h : naturalOf v = .ok n) :
    n ≤ maxNatural := by
  unfold naturalOf at h
  split at h
  · rename_i number
    cases number with
    | natural k =>
      cases h
      exact hv
    | negative k => cases h
    | float bits => cases h
  · cases h

/-- A number that may be missing has machine size if it is read from a small value. -/
lemma optionOf_naturalOf_le {v : Value} {read : Option Nat} (hv : v.Small)
    (h : optionOf naturalOf v = .ok read) : ∀ n ∈ read, n ≤ maxNatural := by
  unfold optionOf at h
  split at h
  · cases h
    exact nofun
  · cases hn : naturalOf v with
    | error e =>
      rw [hn] at h
      cases h
    | ok n =>
      rw [hn] at h
      cases h
      rintro _ ⟨⟩
      exact naturalOf_le hv hn

/-- The numbers among the fields of a unit have 64 bits. -/
structure UnitFields.Small (f : UnitFields) : Prop where
  startLine : ∀ n ∈ f.startLine, n ≤ maxNatural
  endLine : ∀ n ∈ f.endLine, n ≤ maxNatural
  startCol : ∀ n ∈ f.startCol, n ≤ maxNatural
  endCol : ∀ column ∈ f.endCol, ∀ n ∈ column, n ≤ maxNatural

/-- Setting a field once keeps the numbers of the fields small if the new field is small. -/
lemma UnitFields.Small.setOnce {α : Type} {key : String} {old : Option α}
    {read : Value → Except String α} {v : Value} {set : α → UnitFields} {f : UnitFields}
    (hset : ∀ a, read v = .ok a → (set a).Small) (h : setOnce key old read v set = .ok f) :
    f.Small := by
  unfold CodeCatalog.setOnce at h
  split at h
  · cases h
  · cases hread : read v with
    | error e =>
      rw [hread] at h
      cases h
    | ok a =>
      rw [hread] at h
      rw [← Except.ok.inj h]
      exact hset a hread

/-- What follows from both sides of a choice follows from the choice. -/
lemma of_ite_eq {α : Type} {p Q : Prop} [Decidable p] {x y z : α} (hx : x = z → Q)
    (hy : y = z → Q) (h : (if p then x else y) = z) : Q := by
  by_cases hp : p
  · exact hx ((if_pos hp).symm.trans h)
  · exact hy ((if_neg hp).symm.trans h)

/-- Taking one member in keeps the numbers of the fields small. -/
lemma UnitFields.Small.take {f f' : UnitFields} (hf : f.Small) {key : String} {v : Value}
    (hv : v.Small) (h : f.take key v = .ok f') : f'.Small := by
  obtain ⟨hstartLine, hendLine, hstartCol, hendCol⟩ := hf
  have hsome {n : Nat} (hn : naturalOf v = .ok n) : ∀ k ∈ some n, k ≤ maxNatural := by
    rintro _ ⟨⟩
    exact naturalOf_le hv hn
  revert h
  unfold UnitFields.take
  -- seven fields have no number
  iterate 7
    refine of_ite_eq (.setOnce fun _ _ => ⟨hstartLine, hendLine, hstartCol, hendCol⟩) ?_
  refine of_ite_eq (.setOnce fun _ hn => ⟨hsome hn, hendLine, hstartCol, hendCol⟩) ?_
  refine of_ite_eq (.setOnce fun _ hn => ⟨hstartLine, hsome hn, hstartCol, hendCol⟩) ?_
  refine of_ite_eq (.setOnce fun _ hn => ⟨hstartLine, hendLine, hsome hn, hendCol⟩) ?_
  refine of_ite_eq (.setOnce fun _ hn => ⟨hstartLine, hendLine, hstartCol, ?_⟩) ?_
  · rintro _ ⟨⟩
    exact optionOf_naturalOf_le hv hn
  · rintro ⟨⟩
    exact ⟨hstartLine, hendLine, hstartCol, hendCol⟩

/-- Taking all members in keeps the numbers of the fields small. -/
lemma UnitFields.Small.takeAll {f f' : UnitFields} (hf : f.Small) {ms : List (String × Value)}
    (hms : ∀ m ∈ ms, m.2.Small) (h : f.takeAll ms = .ok f') : f'.Small := by
  induction ms generalizing f with
  | nil =>
    obtain rfl := Except.ok.inj h
    exact hf
  | cons m ms ih =>
    obtain ⟨hm, hms⟩ := List.forall_mem_cons.mp hms
    unfold UnitFields.takeAll at h
    split at h
    · cases h
    · rename_i f₁ htake
      exact ih (hf.take hm htake) hms h

/-- A field that has to be there is what it is if it is there. -/
lemma required_eq_ok {α : Type} {key : String} {field : Option α} {a : α}
    (h : required key field = .ok a) : a ∈ field := by
  cases field with
  | none => cases h
  | some b => rw [Except.ok.inj h]; rfl

/-- Two steps that succeed one after the other each succeed. -/
lemma exists_of_bind_eq_ok {ε α β : Type} {x : Except ε α} {f : α → Except ε β} {b : β}
    (h : x >>= f = .ok b) : ∃ a, x = .ok a ∧ f a = .ok b := by
  cases x with
  | error e => cases h
  | ok a => exact ⟨a, rfl, h⟩

/-- The numbers of a unit from small fields have 64 bits. -/
lemma UnitFields.Small.finish {f : UnitFields} (hf : f.Small) {u : CodeUnit}
    (h : f.finish = .ok u) : ∀ n ∈ u.numbers, n ≤ maxNatural := by
  unfold UnitFields.finish at h
  obtain ⟨kind, -, h⟩ := exists_of_bind_eq_ok h
  obtain ⟨name, -, h⟩ := exists_of_bind_eq_ok h
  obtain ⟨sourceText, -, h⟩ := exists_of_bind_eq_ok h
  obtain ⟨filePath, -, h⟩ := exists_of_bind_eq_ok h
  obtain ⟨startLine, hstartLine, h⟩ := exists_of_bind_eq_ok h
  obtain ⟨endLine, hendLine, h⟩ := exists_of_bind_eq_ok h
  obtain ⟨startCol, hstartCol, h⟩ := exists_of_bind_eq_ok h
  obtain rfl := Except.ok.inj h
  simp only [CodeUnit.numbers, List.forall_mem_cons]
  refine ⟨hf.startLine _ (required_eq_ok hstartLine), hf.endLine _ (required_eq_ok hendLine),
    hf.startCol _ (required_eq_ok hstartCol), ?_⟩
  cases hendCol : f.endCol with
  | none => simp
  | some column => simpa using hf.endCol column hendCol

/-! ## Records -/

/-- The numbers among the fields of a record have 64 bits. -/
structure RecordFields.Small (f : RecordFields) : Prop where
  identity : ∀ n ∈ f.identity, n ≤ maxNatural
  tokenCount : ∀ n ∈ f.tokenCount, n ≤ maxNatural
  others : ∀ m ∈ f.others, m.2.Small

/-- Reading the value of one key keeps the numbers of the fields small. -/
lemma RecordFields.Small.take {f : RecordFields} (hf : f.Small) (depth : Nat) (key : String)
    (c : Cursor) : Yields RecordFields.Small (f.take depth key c) := by
  unfold RecordFields.take
  split_ifs
  · exact yields_error _
  · refine (yields_behindColon yields_natural c).map fun n _ hn => ⟨?_, hf.tokenCount, hf.others⟩
    rintro _ ⟨⟩
    exact hn
  · exact yields_error _
  · refine (yields_behindColon yields_natural c).map fun n _ hn => ⟨hf.identity, ?_, hf.others⟩
    rintro _ ⟨⟩
    exact hn
  · refine (yields_behindColon (yields_value depth) c).map fun v _ hv =>
      ⟨hf.identity, hf.tokenCount, ?_⟩
    rw [List.forall_mem_append, List.forall_mem_singleton]
    exact ⟨hf.others, hv⟩

/-- The numbers of a record from small fields have 64 bits. -/
lemma RecordFields.Small.finish {f : RecordFields} (hf : f.Small) {r : Record}
    (h : f.finish = .ok r) : ∀ n ∈ r.numbers, n ≤ maxNatural := by
  unfold RecordFields.finish at h
  obtain ⟨identity, hidentity, h⟩ := exists_of_bind_eq_ok h
  obtain ⟨tokenCount, htokens, h⟩ := exists_of_bind_eq_ok h
  obtain ⟨u, hunit, h⟩ := exists_of_bind_eq_ok h
  obtain rfl := Except.ok.inj h
  rw [Record.numbers, List.forall_mem_cons, List.forall_mem_cons]
  refine ⟨hf.identity _ (required_eq_ok hidentity), hf.tokenCount _ (required_eq_ok htokens), ?_⟩
  unfold CodeUnit.ofMembers at hunit
  split at hunit
  · cases hunit
  · rename_i fields htake
    have hstart : UnitFields.Small {} := ⟨by simp, by simp, by simp, by simp⟩
    exact (hstart.takeAll hf.others htake).finish hunit

/-- **The records that are read** have numbers of 64 bits. -/
lemma yields_readRecords (c : Cursor) :
    Yields (fun rs => ∀ r ∈ rs, ∀ n ∈ r.numbers, n ≤ maxNatural) (readRecords c) := by
  have hrecord (depth : Nat) (c : Cursor) :
      Yields (fun r => ∀ n ∈ r.numbers, n ≤ maxNatural) (Record.read depth c) := by
    refine yields_beginValue (fun x c => ?_) c
    split
    · exact yields_objectWith (I := RecordFields.Small) (fun f key c hf => hf.take _ key c)
        ⟨by simp, by simp, by simp⟩ (fun f r hf hr => hf.finish hr) c
    · exact yields_refuse _ c
  refine yields_beginValue (fun x c => ?_) c
  split
  · exact yields_arrayOf (hrecord _) c
  · exact yields_refuse _ c

/-! ## Catalogs -/

/-- A text that is read as a whole is read from its begin. -/
lemma exists_of_readAll {α : Type} {read : Reader α} {text : String} {a : α}
    (h : readAll read text = .ok a) : ∃ c, read (.ofText text) = .ok (a, c) := by
  unfold readAll at h
  split at h
  · cases h
  · rename_i b c hread
    dsimp only at h
    split at h
    · obtain rfl := Except.ok.inj h
      exact ⟨c, hread⟩
    · cases h

/-- **The numbers of a catalog that is read have 64 bits**, whatever stands in its file. -/
lemma Catalog.bounded_of_readFrom {fs : FileSystem} {path : String} {c : Catalog}
    (h : Catalog.readFrom fs path = .ok c) : c.Bounded := by
  unfold readFrom at h
  split at h
  · cases h
  · rename_i text _
    cases hread : readAll readRecords text with
    | error f =>
      simp only [ofJson, hread] at h
      cases h
    | ok rs =>
      simp only [ofJson, hread] at h
      obtain rfl := Except.ok.inj h
      obtain ⟨c', hrecords⟩ := exists_of_readAll hread
      exact yields_readRecords _ rs c' hrecords

end CodeCatalog
