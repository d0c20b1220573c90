import Mathlib.Data.List.Nodup
import Mathlib.Tactic.Lemma
import CodeCatalog.Toml.Reader

/-!
# No key is given twice

In a table that was read every key stands once, however the table is written: below headers, by keys
with dots or in braces. Every step of reading keeps this.

## Main definitions

* `CodeCatalog.Toml.Item.Distinct`, `Table.Distinct`, `Draft.Distinct` — no key stands twice.
* `CodeCatalog.Toml.Gives` — what a reader gives is of a kind.

## Main results

* `CodeCatalog.Toml.Table.Distinct.alter` — a change at the end of a path of keys.
* `CodeCatalog.Toml.gives_value`, `gives_statement` — values, and files statement by statement.
* `CodeCatalog.Toml.distinct_of_readTable` — whole files.
-/

namespace CodeCatalog.Toml

/-! ## Tables -/

/-- A value in which no key stands twice. Arrays cannot be entered by keys and do not count. -/
inductive Item.Distinct : Item → Prop
  | table {form : TableForm} {entries : List (Key × Item)}
      (hkeys : (entries.map (·.1.name)).Nodup) (h : ∀ e ∈ entries, e.2.Distinct) :
      Distinct (.table form entries)
  | tables {elements : List (TableForm × List (Key × Item))}
      (hkeys : ∀ t ∈ elements, (t.2.map (·.1.name)).Nodup)
      (h : ∀ t ∈ elements, ∀ e ∈ t.2, e.2.Distinct) : Distinct (.tables elements)
  | other {item : Item} (htable : ∀ form entries, item ≠ .table form entries)
      (htables : ∀ elements, item ≠ .tables elements) : Distinct item

/-- A table in which no key stands twice, nor in any table inside it. -/
structure Table.Distinct (t : Table) : Prop where
  keys : (t.entries.map (·.1.name)).Nodup
  items : ∀ e ∈ t.entries, e.2.Distinct

namespace Table.Distinct

variable {t : Table} {key : Key} {item : Item} {name : String}

/-- A table without entries has every key once. -/
lemma nil (form : TableForm) : Table.Distinct ⟨form, []⟩ := ⟨.nil, List.forall_mem_nil _⟩

/-- A table with every key once is such an item. -/
lemma toItem (h : t.Distinct) : t.toItem.Distinct := .table h.keys h.items

/-- An item that is such a table is such a table. -/
lemma of_table {form : TableForm} {entries : List (Key × Item)}
    (h : (Item.table form entries).Distinct) : Table.Distinct ⟨form, entries⟩ := by
  cases h with
  | table hkeys hitems => exact ⟨hkeys, hitems⟩
  | other htable htables => exact absurd rfl (htable form entries)

/-- The elements of an array of such tables are such tables. -/
lemma of_tables {elements : List (TableForm × List (Key × Item))}
    (h : (Item.tables elements).Distinct) {element : TableForm × List (Key × Item)}
    (helement : element ∈ elements) : Table.Distinct ⟨element.1, element.2⟩ := by
  cases h with
  | tables hkeys hitems => exact ⟨hkeys element helement, hitems element helement⟩
  | other htable htables => exact absurd rfl (htables elements)

/-- An array of such tables is such an item. -/
lemma tables {elements : List (TableForm × List (Key × Item))}
    (h : ∀ element ∈ elements, Table.Distinct ⟨element.1, element.2⟩) :
    (Item.tables elements).Distinct :=
  .tables (fun e he => (h e he).keys) fun e he => (h e he).items

/-- What stands under a key of such a table is such an item. -/
lemma get? (h : t.Distinct) (hget : t.get? name = some item) : item.Distinct := by
  obtain ⟨e, hfind, rfl⟩ := Option.map_eq_some_iff.mp hget
  exact h.items e (List.mem_of_find?_eq_some hfind)

/-- Every key stays there once when a new key is put behind the others. -/
lemma push (h : t.Distinct) (hfree : t.get? key.name = none) (hitem : item.Distinct) :
    (t.push key item).Distinct where
  keys := by
    have hnew : key.name ∉ t.entries.map (·.1.name) := by
      intro hmem
      obtain ⟨e, he, hname⟩ := List.mem_map.mp hmem
      have hnone := List.find?_eq_none.mp (Option.map_eq_none_iff.mp hfree) e he
      exact hnone (beq_iff_eq.mpr hname)
    rw [Table.push, List.map_append]
    exact List.nodup_append'.mpr ⟨h.keys, List.nodup_singleton _, by simpa using hnew⟩
  items := List.forall_mem_append.mpr ⟨h.items, by simpa using hitem⟩

/-- Every key stays there once when the item of a key is replaced. -/
lemma replace (h : t.Distinct) (hitem : item.Distinct) : (t.replace name item).Distinct where
  keys := by
    have hnames : (t.replace name item).entries.map (·.1.name) = t.entries.map (·.1.name) := by
      rw [Table.replace, List.map_map]
      refine List.map_congr_left fun e _ => ?_
      simp only [Function.comp_apply]
      split <;> rfl
    rw [hnames]
    exact h.keys
  items := by
    intro e he
    obtain ⟨old, hold, rfl⟩ := List.mem_map.mp he
    split
    · exact hitem
    · exact h.items old hold

/-- Every key stays there once when a key is erased. -/
lemma erase (h : t.Distinct) : (t.erase name).Distinct where
  keys := h.keys.sublist (List.filter_sublist.map _)
  items := fun e he => h.items e (List.mem_of_mem_filter he)

/-- **A change at the end of a path of keys** keeps keys distinct if it does so at its place.

**Proof sketch.** Induction on the path. A table on the way is new, or it was there; then it takes
the place of itself. -/
lemma alter {β : Type} {P : β → Prop} {inBraces dotted : Bool}
    {change : Table → Option (Table × β)}
    (hchange : ∀ t t' b, t.Distinct → change t = some (t', b) → t'.Distinct ∧ P b)
    (path : List Key) {t t' : Table} {b : β} (h : t.Distinct)
    (halter : t.alter inBraces dotted change path = some (t', b)) : t'.Distinct ∧ P b := by
  induction path generalizing t t' b with
  | nil => exact hchange t t' b h halter
  | cons key path ih =>
    rw [Table.alter] at halter
    split at halter
    · rename_i hfree
      split at halter
      · rename_i child b' hchild
        obtain ⟨hdistinct, hb⟩ := ih (.nil _) hchild
        cases halter
        exact ⟨h.push hfree hdistinct.toItem, hb⟩
      · cases halter
    · rename_i form entries hget
      split at halter
      · cases halter
      · split at halter
        · rename_i child b' hchild
          obtain ⟨hdistinct, hb⟩ := ih (of_table (h.get? hget)) hchild
          cases halter
          exact ⟨h.replace hdistinct.toItem, hb⟩
        · cases halter
    · rename_i elements hget
      split at halter
      · cases halter
      · rename_i form entries hlast
        have hold : ∀ element ∈ elements, Table.Distinct ⟨element.1, element.2⟩ :=
          fun element => of_tables (h.get? hget)
        split at halter
        · rename_i child b' hchild
          obtain ⟨hdistinct, hb⟩ := ih (hold _ (List.mem_of_getLast? hlast)) hchild
          cases halter
          refine ⟨h.replace (tables ?_), hb⟩
          exact List.forall_mem_append.mpr
            ⟨fun element he => hold element (List.dropLast_subset elements he),
              by simpa using hdistinct⟩
        · cases halter
    · cases halter

/-- Inserting an item along a path of keys keeps every key once. -/
lemma insert {inBraces : Bool} {k : KeyPath} {t' : Table} (h : t.Distinct) (hitem : item.Distinct)
    (hinsert : t.insert inBraces k item = some t') : t'.Distinct := by
  obtain ⟨⟨t'', b⟩, halter, rfl⟩ := Option.map_eq_some_iff.mp hinsert
  refine (alter (P := fun _ => True) ?_ k.path h halter).1
  intro t t' b ht hpush
  unfold Table.pushNew at hpush
  split at hpush
  · cases hpush
  · rename_i hfree
    simp only [Bool.or_eq_true, not_or, Bool.not_eq_true, Option.isSome_eq_false_iff,
      Option.isNone_iff_eq_none] at hfree
    cases hpush
    exact ⟨ht.push hfree.2 hitem, trivial⟩

/-- Inserting several items one after another keeps every key once. -/
lemma ofEntries {entries : List (KeyPath × Item)} {t' : Table} (h : t.Distinct)
    (hitems : ∀ e ∈ entries, e.2.Distinct) (hof : Table.ofEntries t entries = some t') :
    t'.Distinct := by
  induction entries generalizing t with
  | nil =>
    cases hof
    exact h
  | cons e entries ih =>
    obtain ⟨he, hentries⟩ := List.forall_mem_cons.mp hitems
    rw [Table.ofEntries] at hof
    split at hof
    · rename_i t₁ hinsert
      exact ih (h.insert he hinsert) hentries hof
    · cases hof

end Table.Distinct

/-! ## Files while they are read -/

/-- A file that is read so far, without a key that stands twice. -/
structure Draft.Distinct (d : Draft) : Prop where
  root : d.root.Distinct
  current : d.current.Distinct

namespace Draft.Distinct

variable {d d' : Draft}

/-- At the begin there are no keys. -/
lemma start : Draft.start.Distinct := ⟨.nil _, .nil _⟩

/-- Adding an entry with a new key keeps every key once. -/
lemma addEntry {k : KeyPath} {item : Item} (h : d.Distinct) (hitem : item.Distinct)
    (hadd : d.addEntry k item = some d') : d'.Distinct := by
  obtain ⟨current, hinsert, rfl⟩ := Option.map_eq_some_iff.mp hadd
  refine ⟨h.root, Table.Distinct.insert ?_ hitem hinsert⟩
  exact ⟨h.current.keys, h.current.items⟩

/-- Adding a table under a new key keeps every key once. -/
lemma pushTable {key : Key} {table t t' : Table} {b : Unit} (htable : table.Distinct)
    (ht : t.Distinct) (hpush : Draft.pushTable key table t = some (t', b)) : t'.Distinct := by
  unfold Draft.pushTable at hpush
  split at hpush
  · rename_i hfree
    cases hpush
    exact ht.push hfree htable.toItem
  · split at hpush
    · cases hpush
      exact ht.replace htable.toItem
    · cases hpush
  · cases hpush

/-- Adding an element to an array of tables keeps every key once. -/
lemma pushElement {key : Key} {element t t' : Table} {b : Unit} (helement : element.Distinct)
    (ht : t.Distinct) (hpush : Draft.pushElement key element t = some (t', b)) : t'.Distinct := by
  unfold Draft.pushElement at hpush
  split at hpush
  · rename_i hfree
    cases hpush
    exact ht.push hfree (Table.Distinct.tables (by simpa using helement))
  · rename_i elements hget
    cases hpush
    refine ht.replace (Table.Distinct.tables (List.forall_mem_append.mpr ⟨?_, ?_⟩))
    · exact fun old hold => Table.Distinct.of_tables (ht.get? hget) hold
    · simpa using helement
  · cases hpush

/-- At the end every key of the table stands there once. -/
lemma finish {t : Table} (h : d.Distinct) (hfinish : d.finish = some t) : t.Distinct := by
  unfold Draft.finish at hfinish
  split at hfinish
  · cases hfinish
    exact h.current
  · rename_i k hk
    obtain ⟨⟨t', b⟩, halter, rfl⟩ := Option.map_eq_some_iff.mp hfinish
    refine (Table.Distinct.alter (P := fun _ => True) ?_ k.path h.root halter).1
    intro t t' b ht hpush
    split at hpush
    · exact ⟨pushElement h.current ht hpush, trivial⟩
    · exact ⟨pushTable h.current ht hpush, trivial⟩

/-- Taking a table out for more entries keeps every key once, inside and outside. -/
lemma takeTable {key : Key} {t t' : Table} {entries : List (Key × Item)} (ht : t.Distinct)
    (htake : Draft.takeTable key t = some (t', entries)) (form : TableForm) :
    t'.Distinct ∧ Table.Distinct ⟨form, entries⟩ := by
  unfold Draft.takeTable at htake
  split at htake
  · cases htake
    exact ⟨ht, .nil _⟩
  · rename_i old entries' hget
    split at htake
    · cases htake
      have hinner := Table.Distinct.of_table (ht.get? hget)
      exact ⟨ht.erase, hinner.keys, hinner.items⟩
    · cases htake
  · cases htake

/-- Taking out an element of an array of tables keeps every key once, inside and outside. -/
lemma openElements {key : Key} {t t' : Table} {entries : List (Key × Item)} (ht : t.Distinct)
    (hopen : Draft.openElements key t = some (t', entries)) (form : TableForm) :
    t'.Distinct ∧ Table.Distinct ⟨form, entries⟩ := by
  unfold Draft.openElements at hopen
  split at hopen
  · rename_i hfree
    cases hopen
    exact ⟨ht.push hfree (Table.Distinct.tables (List.forall_mem_nil _)), .nil _⟩
  · cases hopen
    exact ⟨ht, .nil _⟩
  · cases hopen

/-- A header opens a table in which every key stands once. -/
lemma begin {isElement : Bool} {k : KeyPath} {span : Span} (h : d.Distinct)
    (hbegin : d.begin isElement k span = some d') : d'.Distinct := by
  unfold Draft.begin at hbegin
  split at hbegin
  · cases hbegin
  · rename_i root hfinish
    dsimp only at hbegin
    split at hbegin
    · rename_i root' entries halter
      cases hbegin
      obtain ⟨hroot, hentries⟩ := Table.Distinct.alter
        (P := fun entries => (Draft.written span entries).Distinct)
        (fun t t' entries ht htake => by
          split at htake
          · exact openElements ht htake _
          · exact takeTable ht htake _) k.path (h.finish hfinish) halter
      exact ⟨hroot, hentries⟩
    · cases hbegin

end Draft.Distinct

/-! ## What readers give -/

/-- What a reader gives is of a kind. -/
def Gives {α : Type} (r : Reader α) (P : α → Prop) : Prop :=
  ∀ c a next, r c = .done a next → P a

section Gives

variable {α β : Type} {r s : Reader α} {next : α → Reader β} {P : α → Prop} {Q : β → Prop}

/-- Two readers that are done one after the other are each done. -/
lemma andThen_eq_done {o : Outcome α} {f : α → Cursor → Outcome β} {b : β} {c : Cursor}
    (h : o.andThen f = .done b c) : ∃ a c', o = .done a c' ∧ f a c' = .done b c := by
  cases o with
  | done a c' => exact ⟨a, c', rfl, h⟩
  | miss place => cases h
  | fail place => cases h

/-- What is given without reading has the property if it has it. -/
lemma gives_pure {a : α} (h : P a) : Gives (pure a) P := by
  rintro c _ _ ⟨⟩
  exact h

/-- Anything may be known of what a reader gives, also nothing. -/
lemma gives_any (r : Reader α) : Gives r fun _ => True := fun _ _ _ _ => trivial

/-- A property of what is read first is handed on to what is read behind it. -/
lemma Gives.bind (h : Gives r P) (hnext : ∀ a, P a → Gives (next a) Q) :
    Gives (r >>= next) Q := by
  intro c b c' hdone
  obtain ⟨a, c₁, hr, hs⟩ := andThen_eq_done hdone
  exact hnext a (h c a c₁ hr) c₁ b c' hs

/-- What a reader gives matters only for what the next one gives. -/
lemma Gives.behind (hnext : ∀ a, Gives (next a) Q) : Gives (r >>= next) Q :=
  (gives_any r).bind fun a _ => hnext a

/-- Giving no way back does not change what is read. -/
lemma Gives.firm (h : Gives r P) : Gives (firm r) P := by
  intro c a c' hdone
  unfold Toml.firm at hdone
  split at hdone
  · cases hdone
  · exact h c a c' hdone

/-- What is read in one of two ways has the property if both ways give it. -/
lemma Gives.orElse (h : Gives r P) (hs : Gives s P) :
    Gives (orElse r s) P := by
  intro c a c' hdone
  unfold Toml.orElse at hdone
  split at hdone
  · exact hs c a c' hdone
  · exact h c a c' hdone

/-- What is accepted has the property that follows from acceptance. -/
lemma Gives.checked {accept : α → Option β} (h : Gives r P)
    (haccept : ∀ a b, P a → accept a = some b → Q b) : Gives (checked r accept) Q := by
  intro c b c' hdone
  unfold Toml.checked at hdone
  split at hdone
  · rename_i a next hr
    split at hdone
    · rename_i b' haccepted
      cases hdone
      exact haccept a b (h c a _ hr) haccepted
    · cases hdone
  · cases hdone
  · cases hdone

/-- What may be read has the property if it is there. -/
lemma Gives.maybe (h : Gives r P) : Gives (maybe r) fun o => ∀ a ∈ o, P a := by
  intro c o c' hdone
  unfold Toml.maybe at hdone
  split at hdone
  · rename_i a next hr
    cases hdone
    intro b hb
    obtain rfl : a = b := by simpa using hb
    exact h c a _ hr
  · cases hdone
    nofun
  · cases hdone

/-- All that is read again and again has the property. -/
lemma Gives.repeatedWithin (h : Gives r P) (rounds : Nat) :
    Gives (repeatedWithin r rounds) fun as => ∀ a ∈ as, P a := by
  induction rounds with
  | zero =>
    rintro c _ _ ⟨⟩
    exact List.forall_mem_nil _
  | succ rounds ih =>
    intro c as c' hdone
    rw [Toml.repeatedWithin] at hdone
    dsimp only at hdone
    split at hdone
    · cases hdone
      exact List.forall_mem_nil _
    · cases hdone
    · rename_i a next hr
      obtain ⟨others, c₂, hothers, ⟨⟩⟩ := andThen_eq_done hdone
      exact List.forall_mem_cons.mpr ⟨h c a next hr, ih next others _ hothers⟩

/-- All that is read with separators between has the property. -/
lemma Gives.separatedMaybe {separator : Reader β} (h : Gives r P) :
    Gives (separatedMaybe separator r) fun as => ∀ a ∈ as, P a := by
  refine h.maybe.bind fun o ho => ?_
  cases o with
  | none => exact gives_pure (List.forall_mem_nil _)
  | some a =>
    have hmore : Gives (separated separator r) fun as => ∀ a ∈ as, P a :=
      fun c => Gives.repeatedWithin (Gives.behind fun _ => h) _ c
    exact hmore.bind fun others hothers =>
      gives_pure (List.forall_mem_cons.mpr ⟨ho a rfl, hothers⟩)

end Gives

/-! ## Values -/

section Values

variable {α : Type} {value : Reader Item}

/-- An item made of what is read and its place has every key once if the maker sees to it. -/
lemma Gives.placed {r : Reader α} {P : α → Prop} {item : Span → α → Item} (h : Gives r P)
    (hitem : ∀ span a, P a → (item span a).Distinct) : Gives (placed r item) Item.Distinct := by
  have hspanned : Gives (spanned r) fun p => P p.1 := by
    intro c p c' hdone
    unfold spanned at hdone
    split at hdone
    · rename_i a next hr
      cases hdone
      exact h c a _ hr
    · cases hdone
    · cases hdone
  exact hspanned.bind fun p hp => gives_pure (hitem p.2 p.1 hp)

/-- A value that is no table has no keys. -/
lemma gives_placed {r : Reader α} {item : Span → α → Item}
    (htable : ∀ span a form entries, item span a ≠ .table form entries)
    (htables : ∀ span a elements, item span a ≠ .tables elements) :
    Gives (placed r item) Item.Distinct :=
  (gives_any r).placed fun span a _ => .other (htable span a) (htables span a)

/-- The item of an entry has every key once if values have. -/
lemma Gives.entry (h : Gives value Item.Distinct) (trailing : Reader Unit) :
    Gives (entry value trailing) fun e => e.2.Distinct := by
  refine Gives.behind fun k => ?_
  have hitem : Gives (do let _ ← symbol '='; blanks; let v ← value; trailing; return v)
      Item.Distinct :=
    Gives.behind fun _ => Gives.behind fun _ =>
      h.bind fun v hv => Gives.behind fun _ => gives_pure hv
  exact hitem.firm.bind fun item hitem => gives_pure hitem

/-- A table in braces has every key once if values have. -/
lemma Gives.bracedTable (h : Gives value Item.Distinct) :
    Gives (bracedTable value) Table.Distinct := by
  have hentries : Gives (tableEntries value) Table.Distinct := by
    refine Gives.checked (P := fun entries => ∀ e ∈ entries, e.2.Distinct) ?_ ?_
    · exact (h.entry blanks).separatedMaybe.bind fun entries hentries =>
        Gives.behind fun _ => gives_pure hentries
    · exact fun entries t hentries hof => (Table.Distinct.nil _).ofEntries hentries hof
  refine Gives.behind fun _ => hentries.firm.bind fun t ht => Gives.behind fun _ => gives_pure ht

/-- A choice is done if the side that is chosen is. -/
lemma done_of_ite {α : Type} {p : Prop} [Decidable p] {o o' : Outcome α} {a : α} {c : Cursor}
    (h : (if p then o else o') = .done a c) : o = .done a c ∨ o' = .done a c := by
  by_cases hp : p
  · exact .inl (by rwa [if_pos hp] at h)
  · exact .inr (by rwa [if_neg hp] at h)

/-- Every form of a value; only a table in braces has keys. -/
lemma gives_valueWith {nested : Option (Reader Item)}
    (h : ∀ value ∈ nested, Gives value Item.Distinct) :
    Gives (valueWith nested) Item.Distinct := by
  intro c item next hdone
  unfold valueWith at hdone
  split at hdone
  · cases hdone
  · -- One form after the other, as the first character tells them apart.
    obtain htext | hdone := done_of_ite hdone
    · exact gives_placed (by simp) (by simp) c item next htext
    obtain harray | hdone := done_of_ite hdone
    · cases nested with
      | none => cases harray
      | some value => exact gives_placed (by simp) (by simp) c item next harray
    obtain htable | hdone := done_of_ite hdone
    · cases nested with
      | none => cases htable
      | some value =>
        refine ((h value rfl).bracedTable.placed ?_) c item next htable
        exact fun span t ht => .table ht.keys ht.items
    obtain hnumber | hdone := done_of_ite hdone
    · refine ((gives_placed ?_ ?_).orElse ((gives_placed ?_ ?_).orElse (gives_placed ?_ ?_)))
        c item next hnumber <;> simp
    obtain hinteger | hdone := done_of_ite hdone
    · exact gives_placed (by simp) (by simp) c item next hinteger
    obtain hfloat | hdone := done_of_ite hdone
    · exact gives_placed (by simp) (by simp) c item next hfloat
    obtain htrue | hdone := done_of_ite hdone
    · exact gives_placed (by simp) (by simp) c item next htrue
    obtain hfalse | hdone := done_of_ite hdone
    · exact gives_placed (by simp) (by simp) c item next hfalse
    obtain hname | hmiss := done_of_ite hdone
    · exact gives_placed (by simp) (by simp) c item next hname
    · cases hmiss

/-- **In a value that is read no key stands twice.** -/
lemma gives_value (depth : Nat) : Gives (Toml.value depth) Item.Distinct := by
  induction depth with
  | zero => exact gives_valueWith nofun
  | succ depth ih =>
    refine gives_valueWith fun value hvalue => ?_
    obtain rfl : Toml.value depth = value := by simpa using hvalue
    exact ih

end Values

/-! ## Files -/

/-- **One statement** keeps keys distinct. -/
lemma gives_statement {d : Draft} (h : d.Distinct) : Gives (statement d) Draft.Distinct := by
  have hheader (opening closing : List Char) (isElement : Bool) :
      Gives (header opening closing isElement d) Draft.Distinct :=
    (gives_any _).checked fun k d' _ hbegin => h.begin hbegin
  have hentry : Gives (fileEntry d) Draft.Distinct :=
    ((gives_value _).entry lineTrailing).checked fun e d' he hadd => h.addEntry he hadd
  intro c d' next hdone
  unfold statement at hdone
  split at hdone
  · cases hdone
  · exact (Gives.firm (Gives.behind fun _ => Gives.behind fun _ => gives_pure h)) c d' next hdone
  · exact (hheader _ _ true).firm c d' next hdone
  · cases hdone
  · exact (hheader _ _ false).firm c d' next hdone
  · exact (Gives.behind fun _ => gives_pure h) c d' next hdone
  · exact (Gives.behind fun _ => gives_pure h) c d' next hdone
  · exact hentry.firm c d' next hdone

/-- All statements keep keys distinct. -/
lemma gives_statementsWithin {d : Draft} (h : d.Distinct) (rounds : Nat) :
    Gives (statementsWithin rounds d) Draft.Distinct := by
  induction rounds generalizing d with
  | zero =>
    rintro c _ _ ⟨⟩
    exact h
  | succ rounds ih =>
    intro c d' next hdone
    rw [statementsWithin] at hdone
    dsimp only at hdone
    split at hdone
    · cases hdone
      exact h
    · cases hdone
    · rename_i d₁ c₁ hstatement
      obtain ⟨_, c₂, -, hmore⟩ := andThen_eq_done hdone
      exact ih (gives_statement h c d₁ c₁ hstatement) c₂ d' next hmore

/-- **In a file that is read no key is given twice.** -/
lemma distinct_of_readTable {text : String} {t : Table} (h : readTable text = .ok t) :
    t.Distinct := by
  unfold readTable at h
  split at h
  · rename_i d c hfile
    split at h
    · rename_i t' hfinish
      cases h
      obtain ⟨_, c₁, -, hfile⟩ := andThen_eq_done hfile
      obtain ⟨_, c₂, -, hfile⟩ := andThen_eq_done hfile
      obtain ⟨d', c₃, hstatements, hfile⟩ := andThen_eq_done hfile
      obtain ⟨_, c₄, -, ⟨⟩⟩ := andThen_eq_done hfile
      exact (gives_statementsWithin .start _ c₂ d c₃ hstatements).finish hfinish
    · cases h
  · cases h
  · cases h

end CodeCatalog.Toml
