import Mathlib.Data.List.Perm.Basic
import CodeCatalog.Proofs.Collection.Loading

/-!
# What the document of a record tells

A record becomes a document by joining its lists with commas and leaving out what it does not have.
Neither loses anything as long as no entry of a list is empty or has a comma: the joined text gives
back its list, and which keys the data has tells which fields the record has.

## Main definitions

* `CodeCatalog.Record.slots` — all keys with the value that a record has for them, if any.
* `CodeCatalog.entries` — the keys that have a value.
* `CodeCatalog.Record.Plain` — records whose lists can be joined.

## Main results

* `CodeCatalog.commaJoined_inj` — a joined text gives back its list.
* `CodeCatalog.eq_of_mem_entries_iff` — the entries give back the slots.
* `CodeCatalog.Record.perm_metadata_toDocument` — the data of a document are the entries.
* `CodeCatalog.Record.toDocument_eq_iff` — the document of a plain record gives back the record.
-/

namespace CodeCatalog

open Json

/-! ## Joined texts -/

/-- A text that can stand in a joined list. -/
def IsJoinable (s : String) : Prop := s ≠ "" ∧ ',' ∉ s.toList

instance (s : String) : Decidable (IsJoinable s) := inferInstanceAs (Decidable (_ ∧ _))

/-- Joining with commas puts a comma between the texts. -/
lemma toList_commaJoined (xs : List String) :
    (commaJoined xs).toList = [','].intercalate (xs.map String.toList) :=
  String.toList_intercalate

/-- A list of texts that are not empty is joined to the empty text only if it is empty. -/
lemma commaJoined_eq_empty_iff {xs : List String} (h : ∀ x ∈ xs, x ≠ "") :
    commaJoined xs = "" ↔ xs = [] := by
  refine ⟨fun hjoined => ?_, fun hnil => by rw [hnil]; rfl⟩
  cases xs with
  | nil => rfl
  | cons x xs =>
    have hx := h x List.mem_cons_self
    rw [← String.toList_inj, toList_commaJoined, List.map_cons] at hjoined
    cases xs with
    | nil => exact absurd (String.toList_inj.mp (by simpa using hjoined)) hx
    | cons => simp [List.intercalate] at hjoined

/-- **A joined text gives back its list.** -/
lemma commaJoined_inj {xs ys : List String} (hxs : ∀ x ∈ xs, IsJoinable x)
    (hys : ∀ y ∈ ys, IsJoinable y) : commaJoined xs = commaJoined ys ↔ xs = ys := by
  refine ⟨fun hjoined => ?_, fun h => by rw [h]⟩
  have hsplit : ∀ {zs : List String}, (∀ z ∈ zs, IsJoinable z) → zs ≠ [] →
      (commaJoined zs).toList.splitOn ',' = zs.map String.toList := by
    intro zs hzs hne
    rw [toList_commaJoined]
    refine List.splitOn_intercalate ',' (fun cs hcs => ?_) (by simpa using hne)
    obtain ⟨z, hz, rfl⟩ := List.mem_map.mp hcs
    exact (hzs z hz).2
  by_cases hnil : xs = []
  · rw [hnil, eq_comm, ← commaJoined_eq_empty_iff fun y hy => (hys y hy).1, ← hjoined, hnil]
    rfl
  · have hnil' : ys ≠ [] := by
      rwa [ne_eq, ← commaJoined_eq_empty_iff fun y hy => (hys y hy).1, ← hjoined,
        commaJoined_eq_empty_iff fun x hx => (hxs x hx).1]
    have hlists : xs.map String.toList = ys.map String.toList := by
      rw [← hsplit hxs hnil, ← hsplit hys hnil', hjoined]
    exact (List.map_injective_iff.mpr fun _ _ => String.toList_inj.mp) hlists

/-! ## Slots and entries -/

section Entries

variable {α : Type}

/-- The keys that have a value, with their values. -/
def entries (slots : List (String × Option α)) : List (String × α) :=
  slots.filterMap fun s => s.2.map (s.1, ·)

/-- The entries are the slots that are filled. -/
lemma mem_entries_iff {slots : List (String × Option α)} {m : String × α} :
    m ∈ entries slots ↔ (m.1, some m.2) ∈ slots := by
  simp only [entries, List.mem_filterMap, Option.map_eq_some_iff]
  constructor
  · rintro ⟨⟨key, value⟩, hs, v, rfl, rfl⟩
    exact hs
  · intro hs
    exact ⟨_, hs, m.2, rfl, rfl⟩

/-- The keys of the entries are some of those of the slots, in order. -/
lemma sublist_keys_entries (slots : List (String × Option α)) :
    ((entries slots).map (·.1)).Sublist (slots.map (·.1)) := by
  induction slots with
  | nil => exact .slnil
  | cons s slots ih =>
    obtain ⟨key, v⟩ := s
    cases v with
    | none => exact ih.cons key
    | some v => exact ih.cons_cons key

/-- A slot whose key stands nowhere in a list is not in it. -/
lemma not_mem_of_key_not_mem {slots : List (String × Option α)} {key : String}
    (h : key ∉ slots.map (·.1)) (v : Option α) : (key, v) ∉ slots :=
  fun hmem => h (List.mem_map.mpr ⟨_, hmem, rfl⟩)

/-- **The entries give back the slots** of different keys.

**Proof sketch.** Induction on the keys. No other slot has the first key, so the entries with this
key are the value of the first slot. -/
lemma eq_of_mem_entries_iff {xs ys : List (String × Option α)} (hkeys : xs.map (·.1) = ys.map (·.1))
    (hnodup : (xs.map (·.1)).Nodup) (h : ∀ m, m ∈ entries xs ↔ m ∈ entries ys) : xs = ys := by
  simp only [mem_entries_iff] at h
  induction xs generalizing ys with
  | nil => exact (List.map_eq_nil_iff.mp hkeys.symm).symm
  | cons x xs ih =>
    obtain ⟨key, v⟩ := x
    cases ys with
    | nil => cases hkeys
    | cons y ys =>
      obtain ⟨key', w⟩ := y
      simp only [List.map_cons, List.cons.injEq] at hkeys
      obtain ⟨rfl, hkeys⟩ := hkeys
      obtain ⟨hx, hnodup⟩ := List.nodup_cons.mp hnodup
      have hxs := not_mem_of_key_not_mem hx
      have hys := not_mem_of_key_not_mem (hkeys ▸ hx)
      have hfirst : ∀ a : α, v = some a ↔ w = some a := by
        intro a
        simpa [hxs, hys, eq_comm] using h (key, a)
      have hrest : ∀ m : String × α, (m.1, some m.2) ∈ xs ↔ (m.1, some m.2) ∈ ys := by
        intro m
        by_cases hm : m.1 = key
        · rw [hm]
          exact iff_of_false (hxs _) (hys _)
        · simpa [hm] using h m
      rw [Option.ext hfirst, ih hkeys hnodup hrest]

/-- A member with a new key comes beside the others. -/
lemma perm_insertMember {key : String} {ms : List (String × α)} (hkey : key ∉ ms.map (·.1))
    (v : α) : (insertMember key v ms).Perm ((key, v) :: ms) := by
  induction ms with
  | nil => exact .refl _
  | cons m ms ih =>
    obtain ⟨hne, hkey⟩ := not_or.mp (List.mem_cons.not.mp hkey)
    rw [insertMember, if_neg hne]
    split_ifs
    · exact .refl _
    · exact ((ih hkey).cons m).trans (.swap _ _ _)

/-- Members with different keys that are put in one after the other are all there. -/
lemma perm_foldl_insertMember {facts taken : List (String × α)}
    (h : ((taken ++ facts).map (·.1)).Nodup) :
    (facts.foldl (fun ms m => insertMember m.1 m.2 ms) taken).Perm (taken ++ facts) := by
  induction facts generalizing taken with
  | nil => rw [List.append_nil, List.foldl_nil]
  | cons fact facts ih =>
    have hmiddle : (taken ++ fact :: facts).Perm (fact :: (taken ++ facts)) := List.perm_middle
    have hnodup := (hmiddle.map (·.1)).nodup_iff.mp h
    have hkey : fact.1 ∉ taken.map (·.1) := fun hmem =>
      (List.nodup_cons.mp hnodup).1 (by simpa using Or.inl (List.mem_map.mp hmem))
    have hinsert : (insertMember fact.1 fact.2 taken ++ facts).Perm (taken ++ fact :: facts) :=
      ((perm_insertMember hkey fact.2).append_right facts).trans hmiddle.symm
    exact (ih ((hinsert.map (·.1)).nodup_iff.mpr h)).trans hinsert

end Entries

/-! ## Records -/

namespace Record

/-- All keys that the data of a record may have, with the value that the record has for them. -/
def slots (r : Record) : List (String × Option Value) :=
  let u := r.unit
  [("identity", some (natValue r.identity)), ("unit_type", some (.string u.kind.label)),
    ("name", some (.string u.name)), ("decorators", some (.string (commaJoined u.decorators))),
    ("parameters", u.parameters.map fun ps => .string (commaJoined ps)),
    ("base_types", u.baseTypes.map fun bs => .string (commaJoined bs)),
    ("file_path", some (.string u.filePath)), ("start_line", some (natValue u.startLine)),
    ("end_line", some (natValue u.endLine)), ("start_col", some (natValue u.startCol)),
    ("end_col", u.endCol.map natValue), ("token_count", some (natValue r.tokenCount))]

/-- The data of a record are the slots that are filled. -/
lemma facts_eq (r : Record) : r.facts = entries r.slots := by
  simp only [facts, slots, entries, List.filterMap_cons, List.filterMap_nil, Option.map_some]
  cases r.unit.parameters <;> cases r.unit.baseTypes <;> cases r.unit.endCol <;> rfl

/-- Each slot has a key of its own. -/
lemma nodup_keys_slots (r : Record) : (r.slots.map (·.1)).Nodup := by
  simp only [slots, List.map_cons, List.map_nil]
  decide

/-- Each part of the data of a record has a key of its own. -/
lemma nodup_keys_facts (r : Record) : (r.facts.map (·.1)).Nodup := by
  rw [facts_eq]
  exact r.nodup_keys_slots.sublist (sublist_keys_entries _)

/-- **The data of the document of a record** are what the record has for its keys. -/
lemma perm_metadata_toDocument (r : Record) : r.toDocument.metadata.Perm (entries r.slots) := by
  rw [← facts_eq]
  exact perm_foldl_insertMember r.nodup_keys_facts

/-- A record whose lists can be joined. -/
def Plain (r : Record) : Prop :=
  (∀ x ∈ r.unit.decorators, IsJoinable x) ∧
    (∀ xs ∈ r.unit.parameters, ∀ x ∈ xs, IsJoinable x) ∧
    ∀ xs ∈ r.unit.baseTypes, ∀ x ∈ xs, IsJoinable x

/-- The data of the document of a record gives back the slots of the record. -/
lemma slots_of_metadata_eq {r r' : Record}
    (h : r.toDocument.metadata = r'.toDocument.metadata) : r.slots = r'.slots := by
  refine eq_of_mem_entries_iff rfl r.nodup_keys_slots fun m => ?_
  rw [← r.perm_metadata_toDocument.mem_iff, ← r'.perm_metadata_toDocument.mem_iff, h]

/-- Records with the same document have the same slots. -/
lemma slots_of_toDocument_eq {r r' : Record} (h : r.toDocument = r'.toDocument) :
    r.slots = r'.slots :=
  slots_of_metadata_eq (congrArg Document.metadata h)

/-- The values of a record are texts and whole numbers. -/
lemma value_of_mem_slots {r : Record} {key : String} {v : Value} (h : (key, some v) ∈ r.slots) :
    (∃ s, v = .string s) ∨ ∃ n, v = .number (.natural n) := by
  simp only [slots, List.mem_cons, Prod.mk.injEq, Option.some.injEq, List.not_mem_nil,
    or_false] at h
  rcases h with ⟨-, rfl⟩ | ⟨-, rfl⟩ | ⟨-, rfl⟩ | ⟨-, rfl⟩ | ⟨-, h⟩ | ⟨-, h⟩ | ⟨-, rfl⟩ | ⟨-, rfl⟩ |
    ⟨-, rfl⟩ | ⟨-, rfl⟩ | ⟨-, h⟩ | ⟨-, rfl⟩
  any_goals first | exact Or.inl ⟨_, rfl⟩ | exact Or.inr ⟨_, rfl⟩
  · obtain ⟨ps, -, rfl⟩ := Option.map_eq_some_iff.mp h.symm
    exact Or.inl ⟨_, rfl⟩
  · obtain ⟨bs, -, rfl⟩ := Option.map_eq_some_iff.mp h.symm
    exact Or.inl ⟨_, rfl⟩
  · obtain ⟨n, -, rfl⟩ := Option.map_eq_some_iff.mp h.symm
    exact Or.inr ⟨n, rfl⟩

end Record

/-! ## What the slots tell -/

/-- Kinds of units are told apart by their names. -/
lemma UnitKind.label_inj {k k' : UnitKind} : k.label = k'.label ↔ k = k' := by
  cases k <;> cases k' <;> decide

/-- Numbers are told apart by their values. -/
lemma natValue_inj {m n : Nat} : natValue m = natValue n ↔ m = n := by
  simp only [natValue, Value.number.injEq, Number.natural.injEq]

/-- Optional lists are told apart by their joined texts, also an empty one from none. -/
lemma map_commaJoined_inj {xs ys : Option (List String)} (hxs : ∀ zs ∈ xs, ∀ z ∈ zs, IsJoinable z)
    (hys : ∀ zs ∈ ys, ∀ z ∈ zs, IsJoinable z) :
    xs.map (fun zs => Value.string (commaJoined zs)) =
      ys.map (fun zs => Value.string (commaJoined zs)) ↔ xs = ys := by
  cases xs with
  | none => cases ys <;> simp
  | some xs =>
    cases ys with
    | none => simp
    | some ys => simp [commaJoined_inj (hxs xs rfl) (hys ys rfl)]

/-- Optional numbers are told apart, also zero from none. -/
lemma map_natValue_inj {m n : Option Nat} : m.map natValue = n.map natValue ↔ m = n :=
  (Option.map_injective fun _ _ => natValue_inj.mp).eq_iff

/-- The slots and the text of a plain record give back the record. -/
lemma Record.eq_of_slots_eq {r r' : Record} (hr : r.Plain) (hr' : r'.Plain)
    (h : r.slots = r'.slots) (htext : r.unit.sourceText = r'.unit.sourceText) : r = r' := by
  simp only [slots, List.cons.injEq, Prod.mk.injEq, true_and, and_true, Option.some.injEq,
    Value.string.injEq, UnitKind.label_inj, natValue_inj, map_natValue_inj,
    commaJoined_inj hr.1 hr'.1, map_commaJoined_inj hr.2.1 hr'.2.1,
    map_commaJoined_inj hr.2.2 hr'.2.2] at h
  obtain ⟨identity, unit, tokenCount⟩ := r
  obtain ⟨identity', unit', tokenCount'⟩ := r'
  cases unit
  cases unit'
  simp_all only

/-- **Flattening loses nothing.** Plain records have the same document only if they are the same;
so lists that are absent and lists that are empty are told apart, and so are an end that is not
known and an end at column zero. The data of every document, whatever its record, are texts and
whole numbers.

**Proof sketch.** The data of a document are the entries of the slots of its record in another
order (`Record.perm_metadata_toDocument`), and the entries give back the slots, since all slots
have different keys. Each slot gives back its field, a joined text by `commaJoined_inj`. -/
theorem Record.toDocument_eq_iff :
    (∀ r r' : Record, r.Plain → r'.Plain → (r.toDocument = r'.toDocument ↔ r = r')) ∧
      ∀ r : Record, ∀ m ∈ r.toDocument.metadata,
        (∃ s, m.2 = .string s) ∨ ∃ n, m.2 = .number (.natural n) := by
  constructor
  · intro r r' hr hr'
    refine ⟨fun h => ?_, fun h => by rw [h]⟩
    exact eq_of_slots_eq hr hr' (slots_of_toDocument_eq h) (congrArg Document.text h)
  · intro r m hm
    rw [r.perm_metadata_toDocument.mem_iff, mem_entries_iff] at hm
    exact value_of_mem_slots hm

/-! ### Records that differ in their lists and in what they do not have -/

/-- A function with decorators, at the begin of a file. -/
def decoratedFunction (decorators : List String) (parameters : Option (List String))
    (endCol : Option Nat) : Record where
  identity := 0
  unit :=
    { kind := .function, name := "f", decorators, parameters
      sourceText := "def f(a, b): pass", filePath := "m.py"
      startLine := 3, endLine := 3, startCol := 0, endCol }
  tokenCount := 8

/-- The lists of such a function can be joined if its decorators and parameters can. -/
lemma plain_decoratedFunction {decorators : List String} {parameters : Option (List String)}
    (hdecorators : ∀ x ∈ decorators, IsJoinable x)
    (hparameters : ∀ xs ∈ parameters, ∀ x ∈ xs, IsJoinable x) (endCol : Option Nat) :
    (decoratedFunction decorators parameters endCol).Plain :=
  ⟨hdecorators, hparameters, nofun⟩

/-- A function with two decorators and two parameters is told apart from one that lacks a decorator,
from one with the parameters the other way round, and from one that ends in column zero; an empty
list of parameters is told apart from none. -/
theorem Record.toDocument_decoratedFunction_ne :
    (decoratedFunction ["cached", "traced"] (some ["a", "b"]) none).Plain ∧
    (decoratedFunction ["cached", "traced"] (some ["a", "b"]) none).toDocument ≠
      (decoratedFunction ["cached"] (some ["a", "b"]) none).toDocument ∧
    (decoratedFunction ["cached", "traced"] (some ["a", "b"]) none).toDocument ≠
      (decoratedFunction ["cached", "traced"] (some ["b", "a"]) none).toDocument ∧
    (decoratedFunction ["cached", "traced"] (some []) none).toDocument ≠
      (decoratedFunction ["cached", "traced"] none none).toDocument ∧
    (decoratedFunction ["cached", "traced"] (some ["a", "b"]) none).toDocument ≠
      (decoratedFunction ["cached", "traced"] (some ["a", "b"]) (some 0)).toDocument := by
  have htwo : ∀ x ∈ ["cached", "traced"], IsJoinable x := by decide
  have hone : ∀ x ∈ ["cached"], IsJoinable x := by decide
  have hnames : ∀ xs ∈ some ["a", "b"], ∀ x ∈ xs, IsJoinable x := by decide
  have hturned : ∀ xs ∈ some ["b", "a"], ∀ x ∈ xs, IsJoinable x := by decide
  have hempty : ∀ xs ∈ (some [] : Option (List String)), ∀ x ∈ xs, IsJoinable x := by decide
  have habsent : ∀ xs ∈ (none : Option (List String)), ∀ x ∈ xs, IsJoinable x := by decide
  have hfull := plain_decoratedFunction htwo hnames
  have hdiffer {r r' : Record} (hr : r.Plain) (hr' : r'.Plain) (hne : r ≠ r') :
      r.toDocument ≠ r'.toDocument := fun h => hne ((toDocument_eq_iff.1 r r' hr hr').mp h)
  exact ⟨hfull none, hdiffer (hfull none) (plain_decoratedFunction hone hnames none) (by decide),
    hdiffer (hfull none) (plain_decoratedFunction htwo hturned none) (by decide),
    hdiffer (plain_decoratedFunction htwo hempty none) (plain_decoratedFunction htwo habsent none)
      (by decide),
    hdiffer (hfull none) (hfull (some 0)) (by decide)⟩

end CodeCatalog
