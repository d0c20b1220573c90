import Mathlib.Tactic.Lemma
import CodeCatalog.Proofs.Toml.Distinct
import CodeCatalog.Toml.Shape

/-!
# Settings from tables

The entries of a table set the settings of a group one after the other. As no key stands twice,
what a setting is in the end depends on its own entry only: on the value there, or, without an
entry, on what the setting was before. Entries that nobody knows change nothing.

## Main definitions

* `CodeCatalog.Toml.Item.text?`, `boolean?`, `texts?`, `choice?` — what a value says.
* `CodeCatalog.Toml.Table.group` — a table inside a table, empty if it is not there.
* `CodeCatalog.Toml.Governs` — the part of the settings that one key is about.

## Main results

* `CodeCatalog.Toml.Governs.of_setByName` — a setting after all entries of a table.
* `CodeCatalog.Toml.Governs.group` — a group of settings after all entries of a table.
-/

namespace CodeCatalog.Toml

/-! ## Values -/

/-- The text that a value is. -/
def Item.text? : Item → Option String
  | .text _ s => some s
  | _ => none

/-- The truth value that a value is. -/
def Item.boolean? : Item → Option Bool
  | .boolean _ b => some b
  | _ => none

/-- The texts that a value lists. -/
def Item.texts? : Item → Option (List String)
  | .array _ items => items.mapM Item.text?
  | .tables [] => some []
  | _ => none

/-- The choice that a value names, as a text or as the only key of a table. -/
def Item.choice? {α : Type} (named : String → Option α) : Item → Option α
  | .text _ s => named s
  | .table _ [(key, _)] => named key.name
  | _ => none

/-- Refusing an item is no success. -/
lemma Item.refuse_ne_ok {α : Type} {item : Item} {expected : String} {a : α} :
    (item.refuse expected : Except Mismatch α) ≠ .ok a := nofun

/-- An item that is taken for a text is one. -/
lemma Item.text?_of_asText {item : Item} {expected s : String} (h : item.asText expected = .ok s) :
    item.text? = some s := by
  cases item with
  | text span s' => exact congrArg some (Except.ok.inj h)
  | _ => exact absurd h refuse_ne_ok

/-- An item that is taken for a truth value is one. -/
lemma Item.boolean?_of_asBoolean {item : Item} {b : Bool} (h : item.asBoolean = .ok b) :
    item.boolean? = some b := by
  cases item with
  | boolean span b' => exact congrArg some (Except.ok.inj h)
  | _ => exact absurd h refuse_ne_ok

/-- A result that is changed is a success if the result is. -/
lemma map_eq_ok_iff {α β ε : Type} {x : Except ε α} {f : α → β} {b : β} :
    x.map f = .ok b ↔ ∃ a, x = .ok a ∧ f a = b := by
  cases x <;> simp [Except.map]

/-- Items that are taken for texts are texts, one by one. -/
lemma mapM_of_textsOf {items : List Item} {ss : List String} (h : textsOf items = .ok ss) :
    items.mapM Item.text? = some ss := by
  induction items generalizing ss with
  | nil => exact congrArg some (Except.ok.inj h)
  | cons item items ih =>
    rw [textsOf] at h
    cases hitem : item.asText "a string" with
    | error m =>
      rw [hitem] at h
      cases h
    | ok s =>
      rw [hitem] at h
      obtain ⟨ss, hitems, rfl⟩ := map_eq_ok_iff.mp h
      rw [List.mapM_cons, Item.text?_of_asText hitem, ih hitems]
      rfl

/-- An item that is taken for a list of texts is one. -/
lemma Item.texts?_of_asTexts {item : Item} {ss : List String} (h : item.asTexts = .ok ss) :
    item.texts? = some ss := by
  cases item with
  | array span items => exact mapM_of_textsOf h
  | tables elements =>
    cases elements with
    | nil => exact congrArg some (Except.ok.inj h)
    | cons element elements => cases h
  | _ => exact absurd h refuse_ne_ok

/-- What is chosen by a name stands under it among the choices. -/
lemma lookup_of_choose {α : Type} {choices : List (String × α)} {span : Option Span}
    {name : String} {a : α} (h : choose choices span name = .ok a) :
    choices.lookup name = some a := by
  unfold choose at h
  split at h
  · rename_i a' hlookup
    rw [hlookup, Except.ok.inj h]
  · cases h

/-- A choice that is read is the one with the name in the item. -/
lemma Item.choice?_of_asChoice {α : Type} {choices : List (String × α)} {item : Item} {a : α}
    (h : item.asChoice choices = .ok a) : item.choice? (choices.lookup ·) = some a := by
  unfold asChoice at h
  split at h
  · exact lookup_of_choose h
  · split at h
    · cases h
    · rename_i a' hchoose
      obtain ⟨_, -, rfl⟩ := map_eq_ok_iff.mp h
      exact lookup_of_choose hchoose
  · cases h
  · cases h
  · cases h

/-! ## Tables -/

namespace Table

/-- The text of a key. -/
def text? (t : Table) (name : String) : Option String := (t.get? name).bind Item.text?

/-- The truth value of a key. -/
def boolean? (t : Table) (name : String) : Option Bool := (t.get? name).bind Item.boolean?

/-- The texts of a key. -/
def texts? (t : Table) (name : String) : Option (List String) := (t.get? name).bind Item.texts?

/-- The table of a key, without entries if there is none. -/
def group (t : Table) (name : String) : Table :=
  match t.get? name with
  | some (.table form entries) => ⟨form, entries⟩
  | _ => onTheWay false false

/-- The first entry is the one of a key if it has its name. -/
lemma get?_cons (form : TableForm) (key : Key) (item : Item) (entries : List (Key × Item))
    (name : String) :
    get? ⟨form, (key, item) :: entries⟩ name =
      if key.name = name then some item else get? ⟨form, entries⟩ name := by
  unfold get?
  rw [List.find?_cons]
  by_cases h : key.name = name
  · simp [h]
  · simp [h, beq_eq_false_iff_ne.mpr h]

/-- A key has no item exactly if no entry has its name. -/
lemma get?_eq_none_iff {t : Table} {name : String} :
    t.get? name = none ↔ name ∉ t.entries.map (·.1.name) := by
  simp [get?]

/-- The table of a key has distinct keys if the whole table has. -/
lemma Distinct.group {t : Table} (h : t.Distinct) (name : String) : (t.group name).Distinct := by
  unfold Table.group
  split
  · rename_i form entries hget
    exact .of_table (h.get? hget)
  · exact .nil _

end Table

/-! ## Settings of a group -/

section

variable {σ α β : Type} {settings : List (Setting σ)} {name : String} {part : σ → α}
  {read : Item → Except Mismatch α} {s s' : σ} {t : Table}

/-- A setting that is part of the settings: once set, the part is what was read. -/
def Setting.Writes (setting : Setting σ) (part : σ → α) (read : Item → Except Mismatch α) : Prop :=
  ∀ s item s', setting.set s item = .ok s' → read item = .ok (part s')

/-- A setting that has nothing to do with a part of the settings. -/
def Setting.Keeps (setting : Setting σ) (part : σ → α) : Prop :=
  ∀ s item s', setting.set s item = .ok s' → part s' = part s

/-- A setting that only puts what it reads into its part writes this part. -/
lemma Setting.writes_map {name : String} {put : σ → α → σ} (hput : ∀ s a, part (put s a) = a) :
    (⟨name, fun s item => (read item).map (put s)⟩ : Setting σ).Writes part read := by
  intro s item s' h
  obtain ⟨a, hread, rfl⟩ := map_eq_ok_iff.mp h
  rw [hread, hput]

/-- A setting keeps every part that is unchanged by what it puts. -/
lemma Setting.keeps_map {name : String} {read : Item → Except Mismatch β} {put : σ → β → σ}
    (hput : ∀ s b, part (put s b) = part s) :
    (⟨name, fun s item => (read item).map (put s)⟩ : Setting σ).Keeps part := by
  intro s item s' h
  obtain ⟨b, -, rfl⟩ := map_eq_ok_iff.mp h
  exact hput s b

/-- The part of the settings that one key is about: it is written by the setting with this name,
and no other setting touches it. -/
structure Governs (settings : List (Setting σ)) (name : String) (part : σ → α)
    (read : Item → Except Mismatch α) : Prop where
  known : ∃ setting ∈ settings, setting.name = name
  writes : ∀ setting ∈ settings, setting.name = name → setting.Writes part read
  keeps : ∀ setting ∈ settings, setting.name ≠ name → setting.Keeps part

/-- One entry: it is passed over, or sets the setting with its name. -/
lemma setByName_cons {key : Key} {item : Item} {entries : List (Key × Item)}
    (h : setByName settings s ((key, item) :: entries) = .ok s') :
    ((∀ setting ∈ settings, setting.name ≠ key.name) ∧ setByName settings s entries = .ok s') ∨
      ∃ setting ∈ settings, setting.name = key.name ∧
        ∃ s₁, setting.set s item = .ok s₁ ∧ setByName settings s₁ entries = .ok s' := by
  rw [setByName] at h
  split at h
  · rename_i hfind
    exact .inl ⟨by simpa using hfind, h⟩
  · rename_i setting hfind
    split at h
    · rename_i s₁ hset
      exact .inr ⟨setting, List.mem_of_find?_eq_some hfind, by simpa using List.find?_some hfind,
        s₁, hset, h⟩
    · cases h

/-- **A setting after all entries of a table** is what the entry with its name says, or what it was
before if there is none.

**Proof sketch.** By induction on the entries. An entry with another name keeps the part
(`Governs.keeps`). Behind the entry with this name there is no other one, so what it writes
stays. -/
lemma Governs.of_setByName (h : Governs settings name part read) (ht : t.Distinct)
    (hset : setByName settings s t.entries = .ok s') :
    match t.get? name with
    | some item => read item = .ok (part s')
    | none => part s' = part s := by
  obtain ⟨form, entries⟩ := t
  have hkeys : (entries.map (·.1.name)).Nodup := ht.keys
  clear ht
  induction entries generalizing s with
  | nil => exact congrArg part (Except.ok.inj hset).symm
  | cons e entries ih =>
    obtain ⟨key, item⟩ := e
    rw [List.map_cons, List.nodup_cons] at hkeys
    rw [Table.get?_cons]
    obtain ⟨hunknown, hrest⟩ | ⟨setting, hmem, hname, s₁, hwrite, hrest⟩ := setByName_cons hset
    · obtain ⟨setting, hmem, rfl⟩ := h.known
      rw [if_neg (hunknown setting hmem).symm]
      exact ih hrest hkeys.2
    · have hafter := ih hrest hkeys.2
      by_cases hkey : key.name = name
      · subst hkey
        rw [Table.get?_eq_none_iff.mpr hkeys.1] at hafter
        rw [if_pos rfl, hafter]
        exact h.writes setting hmem hname s item s₁ hwrite
      · rw [if_neg hkey]
        rwa [h.keeps setting hmem (hname ▸ hkey) s item s₁ hwrite] at hafter

/-- A setting after all entries of a table, when it is known what its values say. -/
lemma Governs.eq_getD (h : Governs settings name part read) {value : Item → Option α}
    (hvalue : ∀ {item a}, read item = .ok a → value item = some a) (ht : t.Distinct)
    (hset : setByName settings s t.entries = .ok s') :
    part s' = ((t.get? name).bind value).getD (part s) := by
  have htaken := h.of_setByName ht hset
  cases hget : t.get? name with
  | none =>
    rw [hget] at htaken
    exact htaken
  | some item =>
    rw [hget] at htaken
    rw [Option.bind_some, hvalue htaken, Option.getD_some]

/-- **A group of settings after all entries of a table** is set by the entries of its own table. -/
lemma Governs.group {inner : List (Setting α)} {expected : String}
    (h : Governs settings name part fun item => item.asGroup expected inner (part s))
    (ht : t.Distinct) (htable : ∀ item, t.get? name = some item → ∃ form entries,
      item = .table form entries)
    (hset : setByName settings s t.entries = .ok s') :
    setByName inner (part s) (t.group name).entries = .ok (part s') := by
  have htaken := h.of_setByName ht hset
  unfold Table.group
  cases hget : t.get? name with
  | none =>
    rw [hget] at htaken
    exact congrArg Except.ok htaken.symm
  | some item =>
    rw [hget] at htaken
    obtain ⟨form, entries, rfl⟩ := htable item hget
    exact htaken

end

end CodeCatalog.Toml
