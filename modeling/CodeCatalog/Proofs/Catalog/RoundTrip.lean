import CodeCatalog.Catalog.Basic
import CodeCatalog.Proofs.Json.Values

/-!
# Catalogs, written and read back

A record is written as one object: its number, the fields of its unit, its token count. Reading
takes the number and the token count where they stand, collects everything else, and makes the
unit of it at the end. So a catalog whose numbers have 64 bits is read back from its own text.

## Main definitions

* `CodeCatalog.Record.numbers` — the whole numbers of a record.
* `CodeCatalog.Catalog.Bounded` — a catalog of 64-bit numbers.

## Main results

* `CodeCatalog.CodeUnit.ofMembers_toMembers` — a unit is made of its own fields.
* `CodeCatalog.Record.reads_toValue` — a written record is read as the record.
* `CodeCatalog.Catalog.ofJson_toJson` — a written catalog is read as the catalog, in both layouts.
-/

namespace CodeCatalog

open Json

/-! ## Fields of a unit -/

/-- A text is read back from its value. -/
@[simp] lemma textOf_string (s : String) : textOf (.string s) = .ok s := rfl

/-- A number of machine size is read back from its value. -/
@[simp] lemma naturalOf_natValue (n : Nat) : naturalOf (natValue n) = .ok n := rfl

/-- Texts are read back from the items of an array. -/
lemma textsOfItems_map_string (xs : List String) : textsOfItems (xs.map .string) = .ok xs := by
  induction xs with
  | nil => rfl
  | cons x xs ih => simp only [List.map_cons, textsOfItems, textOf, ih, Except.map]

/-- Texts are read back from the value of their list. -/
@[simp] lemma textsOf_textsValue (xs : List String) : textsOf (textsValue xs) = .ok xs :=
  textsOfItems_map_string xs

/-- The kind of a unit is read back from its name. -/
@[simp] lemma kindOf_label (k : UnitKind) : kindOf (.string k.label) = .ok k := by
  cases k <;> decide

/-- An array of texts is not taken for a missing one. -/
@[simp] lemma optionOf_textsValue (xs : List String) :
    optionOf textsOf (textsValue xs) = .ok (some xs) := by
  simp only [optionOf, textsValue, textsOf, textsOfItems_map_string, Except.map]

/-- A number that may be missing is read back. -/
@[simp] lemma optionOf_natOrNull (n : Option Nat) :
    optionOf naturalOf (natOrNull n) = .ok n := by
  cases n <;> rfl

/-- A field that is not known yet is set to what it is read as. -/
@[simp] lemma setOnce_none {α : Type} (key : String) (read : Value → Except String α) (v : Value)
    (set : α → UnitFields) : setOnce key none read v set = (read v).map set := rfl

/-- Fields may be taken in in two parts. -/
lemma UnitFields.takeAll_append {f g : UnitFields} {ms : List (String × Value)}
    (h : f.takeAll ms = .ok g) (ms' : List (String × Value)) :
    f.takeAll (ms ++ ms') = g.takeAll ms' := by
  induction ms generalizing f with
  | nil =>
    obtain rfl : f = g := by simpa [UnitFields.takeAll] using h
    rfl
  | cons m ms ih =>
    rw [UnitFields.takeAll] at h
    rw [List.cons_append, UnitFields.takeAll]
    cases htake : f.take m.1 m.2 with
    | error e => simp only [htake] at h; cases h
    | ok f' =>
      simp only [htake] at h
      exact ih h

/-- Parameters are taken in, if there are any. -/
lemma UnitFields.takeAll_parameters {f : UnitFields} (hf : f.parameters = none)
    (parameters : Option (List String)) :
    f.takeAll (textsMember "parameters" parameters) =
      .ok { f with parameters := parameters.map some } := by
  cases parameters with
  | none => simp only [textsMember, UnitFields.takeAll, Option.map_none, ← hf]
  | some xs => simp [textsMember, UnitFields.takeAll, UnitFields.take, hf, Except.map]

/-- Base types are taken in, if there are any. -/
lemma UnitFields.takeAll_baseTypes {f : UnitFields} (hf : f.baseTypes = none)
    (baseTypes : Option (List String)) :
    f.takeAll (textsMember "base_types" baseTypes) =
      .ok { f with baseTypes := baseTypes.map some } := by
  cases baseTypes with
  | none => simp only [textsMember, UnitFields.takeAll, Option.map_none, ← hf]
  | some xs => simp [textsMember, UnitFields.takeAll, UnitFields.take, hf, Except.map]

/-- The fields of a unit, as they are known when all of them have been taken in. -/
def CodeUnit.fields (u : CodeUnit) : UnitFields where
  kind := some u.kind
  name := some u.name
  decorators := some u.decorators
  parameters := u.parameters.map some
  baseTypes := u.baseTypes.map some
  sourceText := some u.sourceText
  filePath := some u.filePath
  startLine := some u.startLine
  endLine := some u.endLine
  startCol := some u.startCol
  endCol := some u.endCol

/-- Every field of a unit is taken in. -/
lemma CodeUnit.takeAll_toMembers (u : CodeUnit) :
    UnitFields.takeAll {} u.toMembers = .ok u.fields := by
  have hhead : UnitFields.takeAll {} [("unit_type", .string u.kind.label),
      ("name", .string u.name), ("decorators", textsValue u.decorators)] =
        .ok { kind := some u.kind, name := some u.name, decorators := some u.decorators } := by
    simp [UnitFields.takeAll, UnitFields.take, Except.map]
  unfold CodeUnit.toMembers
  rw [UnitFields.takeAll_append hhead,
    UnitFields.takeAll_append (UnitFields.takeAll_parameters rfl u.parameters),
    UnitFields.takeAll_append (UnitFields.takeAll_baseTypes rfl u.baseTypes)]
  simp [UnitFields.takeAll, UnitFields.take, Except.map, CodeUnit.fields]

/-- No field of a unit is missing, and none gets lost. -/
lemma CodeUnit.finish_fields (u : CodeUnit) : u.fields.finish = .ok u := by
  have hoption : ∀ xs : Option (List String), (xs.map some).getD none = xs := by
    intro xs
    cases xs <;> rfl
  simp only [UnitFields.finish, CodeUnit.fields, required, bind, Except.bind, pure, Except.pure,
    Option.getD_some, hoption]

/-- **A unit is made of its own fields.** -/
lemma CodeUnit.ofMembers_toMembers (u : CodeUnit) : CodeUnit.ofMembers u.toMembers = .ok u := by
  simp only [CodeUnit.ofMembers, u.takeAll_toMembers, u.finish_fields]

/-! ## Records -/

/-- The whole numbers of a unit. -/
def CodeUnit.numbers (u : CodeUnit) : List Nat :=
  u.startLine :: u.endLine :: u.startCol :: u.endCol.toList

/-- The whole numbers of a record. -/
def Record.numbers (r : Record) : List Nat := r.identity :: r.tokenCount :: r.unit.numbers

/-- An array of texts is one level deep. -/
lemma textsValue_fits (depth : Nat) (xs : List String) : (textsValue xs).Fits (depth + 1) := by
  refine .array fun v hv => ?_
  obtain ⟨s, -, rfl⟩ := List.mem_map.mp hv
  exact .string depth s

/-- A number that may be missing fits if it has 64 bits. -/
lemma natOrNull_fits (depth : Nat) {n : Option Nat} (h : ∀ k ∈ n.toList, k ≤ maxNatural) :
    (natOrNull n).Fits depth := by
  cases n with
  | none => exact .null depth
  | some k => exact .natural depth (h k (by simp))

/-- A member with texts that may be missing is at most one level deep. -/
lemma textsMember_fits (depth : Nat) (key : String) (xs : Option (List String)) :
    ∀ m ∈ textsMember key xs, m.2.Fits (depth + 1) := by
  cases xs with
  | none => exact fun m hm => nomatch hm
  | some xs =>
    intro m hm
    obtain rfl := List.mem_singleton.mp hm
    exact textsValue_fits depth xs

/-- The fields of a unit are within the limits of the format. -/
lemma CodeUnit.toMembers_fits (depth : Nat) {u : CodeUnit} (hu : ∀ n ∈ u.numbers, n ≤ maxNatural) :
    ∀ m ∈ u.toMembers, m.2.Fits (depth + 1) := by
  simp only [CodeUnit.numbers, List.forall_mem_cons] at hu
  obtain ⟨hstartLine, hendLine, hstartCol, hendCol⟩ := hu
  simp only [CodeUnit.toMembers, List.forall_mem_append, List.forall_mem_cons]
  exact ⟨⟨.string _ _, .string _ _, textsValue_fits depth _, List.forall_mem_nil _⟩,
    textsMember_fits depth _ _, textsMember_fits depth _ _, .string _ _, .string _ _,
    .natural _ hstartLine, .natural _ hendLine, .natural _ hstartCol, natOrNull_fits _ hendCol,
    List.forall_mem_nil _⟩

/-- No field of a unit has the key of a number that a record itself has. -/
lemma CodeUnit.key_ne_of_mem_toMembers (u : CodeUnit) :
    ∀ m ∈ u.toMembers, m.1 ≠ "identity" ∧ m.1 ≠ "token_count" := by
  cases hparameters : u.parameters <;> cases hbaseTypes : u.baseTypes <;>
    simp [CodeUnit.toMembers, textsMember, hparameters, hbaseTypes]

section Records

variable (depth : Nat) (l : Layout) (level : Nat)

/-- The number of a record is read once, behind its key. -/
lemma RecordFields.take_identity {f : RecordFields} (hf : f.identity = none) (c : Cursor) :
    f.take depth "identity" c =
      (behindColon natural c).map fun r => ({ f with identity := some r.1 }, r.2) := by
  simp [RecordFields.take, hf]

/-- The number of tokens is read once, behind its key. -/
lemma RecordFields.take_tokenCount {f : RecordFields} (hf : f.tokenCount = none) (c : Cursor) :
    f.take depth "token_count" c =
      (behindColon natural c).map fun r => ({ f with tokenCount := some r.1 }, r.2) := by
  simp [RecordFields.take, hf]

/-- A whole number behind a key is read where it stands. -/
lemma behindColon_natural {n : Nat} (hn : n ≤ maxNatural) (before : List Char)
    {rest : List Char} (hrest : Delimits rest) :
    ∃ before', behindColon natural
        ⟨before, ':' :: (l.pad ++ (natValue n).write l level) ++ rest⟩ =
      .ok (n, ⟨before', rest⟩) :=
  behindColon_reads l (reads_natural_natText hn) before hrest

/-- Behind the number of a record the fields of its unit are collected. -/
lemma RecordFields.stepsRead_toMembers (identity : Nat) {u : CodeUnit}
    (hu : ∀ n ∈ u.numbers, n ≤ maxNatural) :
    StepsRead (RecordFields.take (depth + 1)) { identity := some identity }
      (memberTexts l level u.toMembers)
      { identity := some identity, others := u.toMembers } := by
  let collected (others : List (String × Value)) : RecordFields :=
    { identity := some identity, others := others }
  refine stepsRead_collect l level collected (fun m hm taken c => ?_)
    (fun m hm => (CodeUnit.toMembers_fits depth hu m hm).reads l level) []
  obtain ⟨hidentity, htokens⟩ := u.key_ne_of_mem_toMembers m hm
  simp only [RecordFields.take, hidentity, htokens, if_false, collected]

/-- The fields of a record, as they are known when all of them have been taken in. -/
def Record.fields (r : Record) : RecordFields where
  identity := some r.identity
  tokenCount := some r.tokenCount
  others := r.unit.toMembers

/-- The fields of a record are taken in, one after the other. -/
lemma Record.stepsRead_fields {r : Record} (hr : ∀ n ∈ r.numbers, n ≤ maxNatural) :
    StepsRead (RecordFields.take (depth + 1)) {}
      (memberTexts l level (("identity", natValue r.identity) :: r.unit.toMembers ++
        [("token_count", natValue r.tokenCount)]))
      r.fields := by
  simp only [Record.numbers, List.forall_mem_cons] at hr
  obtain ⟨hidentity, htokens, hunit⟩ := hr
  rw [memberTexts, List.map_append]
  -- the number stands first and the token count last, so the unit's fields are collected between
  refine StepsRead.append (.cons (fun before rest hrest => ?_)
    (RecordFields.stepsRead_toMembers depth l level r.identity hunit))
    (.cons (fun before rest hrest => ?_) (.nil _))
  · obtain ⟨before', hread⟩ := behindColon_natural l level hidentity before hrest
    refine ⟨before', ?_⟩
    rw [RecordFields.take_identity _ rfl, hread]
    rfl
  · obtain ⟨before', hread⟩ := behindColon_natural l level htokens before hrest
    refine ⟨before', ?_⟩
    rw [RecordFields.take_tokenCount _ rfl, hread]
    rfl

/-- No field of a record is missing, and none gets lost. -/
lemma Record.finish_fields (r : Record) : r.fields.finish = .ok r := by
  simp only [RecordFields.finish, Record.fields, required, r.unit.ofMembers_toMembers, bind,
    Except.bind, pure, Except.pure]

/-- **A written record is read as the record**, in every layout and at every level. -/
lemma Record.reads_toValue {r : Record} (hr : ∀ n ∈ r.numbers, n ≤ maxNatural) :
    Reads (Record.read (depth + 2)) (r.toValue.write l level) r := by
  rw [Record.toValue, Value.write, writeMembers_eq]
  refine .of_beginValue (by decide) (by decide) fun before rest _ => ?_
  obtain ⟨before', hread⟩ := objectWith_inLayout l (level + 1)
    (Record.stepsRead_fields depth l (level + 1) hr) RecordFields.finish
    r.finish_fields (l.tail_blank level _) before rest
  refine ⟨before', ?_⟩
  rw [if_pos rfl, List.append_assoc, List.append_assoc]
  exact hread

end Records

/-! ## Catalogs -/

/-- A catalog whose whole numbers have 64 bits. -/
def Catalog.Bounded (c : Catalog) : Prop := ∀ r ∈ c.records, ∀ n ∈ r.numbers, n ≤ maxNatural

instance (c : Catalog) : Decidable c.Bounded :=
  inferInstanceAs (Decidable (∀ r ∈ c.records, ∀ n ∈ r.numbers, n ≤ maxNatural))

/-- Written records are read as the records, in every layout. -/
lemma reads_records (l : Layout) {rs : List Record}
    (hrs : ∀ r ∈ rs, ∀ n ∈ r.numbers, n ≤ maxNatural) :
    Reads readRecords ((Value.array (rs.map Record.toValue)).write l 0) rs := by
  rw [Value.write, writeItems_eq, List.map_map]
  refine .of_beginValue (by decide) (by decide) fun before rest _ => ?_
  -- of the depth allowed inside the array a record takes two levels, itself and its lists of texts
  obtain ⟨before', hread⟩ := arrayOf_inLayout l 1
    (fun r hr => Record.reads_toValue 124 l 1 (hrs r hr)) (l.tail_blank 0 _) before rest
  refine ⟨before', ?_⟩
  rw [if_pos rfl, List.append_assoc, List.append_assoc]
  exact hread

/-- **A catalog is read back from its own text**, whether it is written without blanks or with
every item on a line of its own: every text, every 64-bit number, and every field that is left
out, null or empty comes back as it was. -/
theorem Catalog.ofJson_toJson (c : Catalog) (hc : c.Bounded) (pretty : Bool) :
    Catalog.ofJson (c.toJson pretty) = .ok c := by
  have hread := (reads_records (if pretty then .indented else .compact) hc).readAll
  rw [Catalog.ofJson, Catalog.toJson, Value.text, hread]
  rfl

/-- Three records with quotes, backslashes, line ends and control characters in their texts, the
greatest number there is, and fields that are left out, null or empty. -/
def awkwardCatalog : Catalog where
  records := [
    { identity := 0
      tokenCount := maxNatural
      unit := {
        kind := .function
        name := "say_\"hi\"\\"
        decorators := ["cached", "\t"]
        parameters := some []
        sourceText := "def f():\r\n\treturn '\x00\x1f\x7f'"
        filePath := "C:\\src\\über.py"
        startLine := 1
        endLine := 2
        startCol := 0
        endCol := none } },
    { identity := maxNatural
      tokenCount := 0
      unit := {
        kind := .classDef
        name := "Δ"
        baseTypes := some ["A\"", ""]
        sourceText := "class Δ(A): pass\u2028"
        filePath := ""
        startLine := 0
        endLine := maxNatural
        startCol := maxNatural
        endCol := some maxNatural } },
    { identity := 7
      tokenCount := 3
      unit := {
        kind := .variable
        name := "null"
        parameters := some ["[", ",", "]"]
        baseTypes := some []
        sourceText := "null = \\"
        filePath := "a/b.py"
        startLine := 10
        endLine := 10
        startCol := 4
        endCol := some 0 } }]

/-- The catalog is read back from both layouts. -/
theorem awkwardCatalog_readBack :
    awkwardCatalog.Bounded ∧
      Catalog.ofJson (awkwardCatalog.toJson true) = .ok awkwardCatalog ∧
      Catalog.ofJson (awkwardCatalog.toJson false) = .ok awkwardCatalog := by
  have hbounded : awkwardCatalog.Bounded := by decide
  exact ⟨hbounded, Catalog.ofJson_toJson awkwardCatalog hbounded true,
    Catalog.ofJson_toJson awkwardCatalog hbounded false⟩

end CodeCatalog
