import CodeCatalog.Proofs.Toml.Values

/-!
# Settings files, written and read back

A settings file is a row of statements: entries, headers and empty lines. Reading it statement by
statement leads to a table that has what the statements say, if no name is given twice.

## Main definitions

* `CodeCatalog.Toml.Say` — entries that have names and values of kinds.
* `CodeCatalog.Toml.Statement` — what is written on a line of its own.
* `CodeCatalog.Toml.Outline` — what the statements so far say, without places.
* `CodeCatalog.Toml.Draft.Shows` — a file that is read so far and has what an outline says.

## Main results

* `CodeCatalog.Toml.Draft.Shows.reads_statement` — one statement.
* `CodeCatalog.Toml.Draft.Shows.completes` — all statements.
* `CodeCatalog.Toml.readTable_statements` — a whole file.
-/

namespace CodeCatalog.Toml

/-! ## Entries -/

/-- What a table is to have: names with kinds of values. -/
abbrev Expected := List (String × (Item → Prop))

/-- The names that are expected. -/
abbrev Expected.names (ps : Expected) : List String := ps.map (·.1)

/-- Entries that have the names and values of the kinds that are expected, in their order. -/
def Say (entries : List (Key × Item)) (ps : Expected) : Prop :=
  List.Forall₂ (fun e p => e.1.name = p.1 ∧ p.2 e.2) entries ps

/-- A table with entries, however it is written. -/
def IsGroup (ps : Expected) (item : Item) : Prop :=
  ∃ form entries, item = .table form entries ∧ Say entries ps

variable {ps : Expected} {entries : List (Key × Item)} {k : Key} {item : Item}
  {P : Item → Prop} {name : String}

/-- One more entry says what is expected of it behind the others. -/
lemma Say.push (h : Say entries ps) (hitem : P item) :
    Say (entries ++ [(k, item)]) (ps ++ [(k.name, P)]) :=
  List.rel_append h (.cons ⟨rfl, hitem⟩ .nil)

/-- Entries say nothing about other names. -/
lemma Say.find?_eq_none (h : Say entries ps) (hname : name ∉ ps.names) :
    entries.find? (·.1.name == name) = none := by
  induction h with
  | nil => rfl
  | @cons e p entries ps hep h ih =>
    simp only [Expected.names, List.map_cons, List.mem_cons, not_or] at hname
    rw [List.find?_cons, hep.1, beq_false_of_ne (fun heq => hname.1 heq.symm)]
    exact ih hname.2

/-- Nothing stands under a name that the entries do not say anything about. -/
lemma Say.get?_eq_none {form : TableForm} (h : Say entries ps) (hname : name ∉ ps.names) :
    (Table.mk form entries).get? name = none := by
  rw [Table.get?, h.find?_eq_none hname]
  rfl

/-! ## Statements -/

/-- What is written on a line of its own. -/
inductive Statement where
  /-- An entry: its name, its value as it is written, and the kind of the value. -/
  | entry (name value : String) (kind : Item → Prop)
  | header (name : String)
  | blank

/-- A statement as it is written. -/
def Statement.text : Statement → List Char
  | .entry name value _ => (writeEntry name value).toList
  | .header name => '[' :: (name.toList ++ [']', '\n'])
  | .blank => ['\n']

/-- What statements say, without places: the header of the table under way, unless it is the root
table, what is finished before it, and what is in it. -/
structure Outline where
  header : Option String := none
  front : Expected := []
  current : Expected := []

namespace Outline

/-- All that the statements so far say. -/
def finished (o : Outline) : Expected :=
  match o.header with
  | none => o.current
  | some name => o.front ++ [(name, IsGroup o.current)]

/-- What is said with one more statement. -/
def after (o : Outline) : Statement → Outline
  | .entry name _ kind => { o with current := o.current ++ [(name, kind)] }
  | .header name => ⟨some name, o.finished, []⟩
  | .blank => o

end Outline

/-- A name that needs no quotes. -/
def IsPlainName (name : String) : Prop :=
  name.toList ≠ [] ∧ ∀ x ∈ name.toList, isKeyChar x = true

instance : DecidablePred IsPlainName := fun name =>
  decidable_of_iff (name.toList ≠ [] ∧ name.toList.all isKeyChar = true)
    (and_congr_right' List.all_eq_true)

/-- A value that is read back as one of a kind, if no quote follows it. -/
def ReadsBack (value : String) (kind : Item → Prop) : Prop :=
  ∀ rest, NoQuote rest → Reads fileValue value.toList rest kind

/-- A text is read back. -/
lemma readsBack_text (s : String) : ReadsBack (writeText s) (IsText s) :=
  fun _ hrest => reads_fileValue_text s hrest

/-- A truth value is read back. -/
lemma readsBack_boolean (b : Bool) : ReadsBack (writeBoolean b) (IsBoolean b) :=
  fun rest _ => reads_fileValue_boolean b rest

/-- A list of texts is read back. -/
lemma readsBack_texts (ss : List String) : ReadsBack (writeTexts ss) (IsTexts ss) :=
  fun rest _ => reads_fileValue_texts ss rest

/-- A statement that may follow: its name is plain and new, and its value is read back. -/
def Outline.Takes (o : Outline) : Statement → Prop
  | .entry name value kind => IsPlainName name ∧ name ∉ o.current.names ∧ ReadsBack value kind
  | .header name => IsPlainName name ∧ name ∉ o.finished.names
  | .blank => True

/-! ## Reading a line -/

section Lines

variable {text rest : List Char} {d : Draft} {Q : Draft → Prop}

/-- A key without dots. -/
def IsKey (name : String) (k : KeyPath) : Prop := ∃ span, k = ⟨[], ⟨name, span⟩⟩

/-- A character of a key is none of those that mean something else there. -/
lemma isKeyChar_ne {x : Char} (h : isKeyChar x = true) :
    x ≠ '"' ∧ x ≠ '\x27' ∧ x ≠ '#' ∧ x ≠ '[' ∧ x ≠ '\n' ∧ x ≠ '\r' ∧ isBlank x = false := by
  refine ⟨?_, ?_, ?_, ?_, ?_, ?_, ?_⟩
  iterate 6
    rintro rfl
    exact absurd h (by decide)
  · by_contra hblank
    simp only [isBlank, Bool.not_eq_false, Bool.or_eq_true, beq_iff_eq] at hblank
    obtain rfl | rfl := hblank <;> exact absurd h (by decide)

/-- A plain name is read as a key, up to a character that belongs to no key. -/
lemma reads_simpleKey (hname : IsPlainName name) (hrest : Stops isKeyChar rest) :
    Reads simpleKey name.toList rest fun k => k.name = name := by
  intro c hc
  obtain ⟨hne, hchars⟩ := hname
  obtain ⟨p, next, hdone, hnext, hp⟩ := (reads_someWhere hchars hne hrest).spanned c hc
  obtain ⟨x, xs, hcons⟩ := List.exists_cons_of_ne_nil hne
  obtain ⟨hdouble, hsingle, -⟩ := isKeyChar_ne (hchars x (by rw [hcons]; exact List.mem_cons_self))
  refine ⟨⟨String.ofList p.1, p.2⟩, next, ?_, hnext, by rw [hp, String.ofList_toList]⟩
  rw [hcons] at hc
  unfold simpleKey
  dsimp only
  split
  · rename_i heq
    exact absurd (List.cons.inj (hc.symm.trans heq)).1 hdouble
  · rename_i heq
    exact absurd (List.cons.inj (hc.symm.trans heq)).1 hsingle
  · rw [hdone]
    rfl

/-- A plain name begins with a character of a key. -/
lemma IsPlainName.head (h : IsPlainName name) :
    ∃ x xs, name.toList = x :: xs ∧ isKeyChar x = true := by
  obtain ⟨x, xs, hcons⟩ := List.exists_cons_of_ne_nil h.1
  exact ⟨x, xs, hcons, h.2 x (by rw [hcons]; exact List.mem_cons_self)⟩

/-- Blanks end in front of a plain name. -/
lemma IsPlainName.stops_isBlank (h : IsPlainName name) (rest : List Char) :
    Stops isBlank (name.toList ++ rest) := by
  obtain ⟨x, xs, hcons, hx⟩ := h.head
  rw [hcons]
  exact stops_cons (isKeyChar_ne hx).2.2.2.2.2.2 _

/-- A key is read with the blanks behind it. -/
lemma reads_key {bs : List Char} (hname : IsPlainName name) (hbs : bs = [] ∨ bs = [' '])
    {y : Char} (hy : isBlank y = false ∧ isKeyChar y = false ∧ y ≠ '.') (ys : List Char) :
    Reads key (name.toList ++ bs) (y :: ys) (IsKey name) := by
  have hstops : Stops isKeyChar (bs ++ y :: ys) := by
    obtain rfl | rfl := hbs
    · exact stops_cons hy.2.1 ys
    · exact stops_cons (by decide) _
  have hblanks : Reads blanks bs (y :: ys) fun _ => True := by
    refine reads_blanks ?_ (stops_cons hy.1 ys)
    obtain rfl | rfl := hbs <;> exact List.all_eq_true.mp (by decide)
  have hpart : Reads (do blanks; let k ← simpleKey; blanks; return k) (name.toList ++ bs) (y :: ys)
      fun k => k.name = name := by
    refine Reads.bind_nil (reads_noBlanks ?_) fun _ _ => ?_
    · rw [List.append_assoc]
      exact hname.stops_isBlank _
    · exact (reads_simpleKey hname hstops).bind fun k hk => hblanks.bind_pure fun _ _ => hk
  have hdot : Misses (symbol '.') (y :: ys) := misses_symbol (by simpa using hy.2.2)
  have hparts := hpart.separatedOnce (.nil hdot.bind)
  rw [List.append_nil] at hparts
  refine hparts.checked fun ks hks => ?_
  obtain ⟨k, rfl, rfl⟩ : ∃ k, ks = [k] ∧ k.name = name := by
    cases hks with
    | cons hk hnil =>
      cases hnil
      exact ⟨_, rfl, hk⟩
  exact ⟨⟨[], k⟩, rfl, k.span, rfl⟩

/-- A line ends with its line feed. -/
lemma reads_lineTrailing (rest : List Char) : Reads lineTrailing ['\n'] rest fun _ => True := by
  have hblanks : Reads blanks [] ('\n' :: rest) fun _ => True :=
    reads_noBlanks (stops_cons (by decide) rest)
  have hcomment : Misses comment ('\n' :: rest) := (misses_symbol (by simp)).bind
  exact hblanks.bind_nil fun _ _ => hcomment.maybe.bind_nil fun _ _ => (reads_newline rest).orElse

/-- The characters of an entry: its name, an equals sign between blanks, its value and a line feed.
-/
lemma toList_writeEntry (name value : String) :
    (writeEntry name value).toList =
      name.toList ++ [' '] ++ (['='] ++ ([' '] ++ (value.toList ++ ['\n']))) := by
  simp [writeEntry, toString]

/-- No value begins with a blank. -/
lemma stops_of_reads_fileValue (h : Reads fileValue text rest P) :
    Stops isBlank (text ++ rest) := by
  intro x hx
  obtain ⟨xs, hcons⟩ : ∃ xs, text ++ rest = x :: xs := List.head?_eq_some_iff.mp hx
  obtain ⟨item, next, hdone, -⟩ := h ⟨0, text ++ rest⟩ rfl
  by_contra hblank
  simp only [isBlank, Bool.not_eq_false, Bool.or_eq_true, beq_iff_eq] at hblank
  rw [fileValue_eq, valueWith.eq_def, hcons] at hdone
  obtain rfl | rfl := hblank <;> cases hdone

/-- An entry is read back if its value is. -/
lemma reads_entry {value : String} (hname : IsPlainName name)
    (hvalue : Reads fileValue value.toList ('\n' :: rest) P) :
    Reads (entry fileValue lineTrailing) (writeEntry name value).toList rest
      fun e => IsKey name e.1 ∧ P e.2 := by
  rw [toList_writeEntry]
  refine (reads_key hname (.inr rfl) (by decide) _).bind fun k hk => ?_
  have hblanks : Reads blanks [' '] (value.toList ++ ['\n'] ++ rest) fun _ => True :=
    reads_blanks (List.all_eq_true.mp (by decide)) (by simpa using stops_of_reads_fileValue hvalue)
  have hitem : Reads (do let _ ← symbol '='; blanks; let v ← fileValue; lineTrailing; return v)
      (['='] ++ ([' '] ++ (value.toList ++ ['\n']))) rest P :=
    (reads_symbol '=' _).bind fun _ _ => hblanks.bind fun _ _ =>
      hvalue.bind fun v hv => (reads_lineTrailing rest).bind_pure fun _ _ => hv
  exact hitem.firm.bind_pure fun v hv => ⟨hk, hv⟩

/-- An entry is put into the table under way. -/
lemma reads_statement_entry {value : String} (hname : IsPlainName name)
    (hvalue : Reads fileValue value.toList ('\n' :: rest) P)
    (hd : ∀ k item, IsKey name k → P item → ∃ d', d.addEntry k item = some d' ∧ Q d') :
    Reads (statement d) (writeEntry name value).toList rest Q := by
  intro c hc
  have hread : Reads (fileEntry d) (writeEntry name value).toList rest Q :=
    (reads_entry hname hvalue).checked fun e he => hd e.1 e.2 he.1 he.2
  obtain ⟨d', next, hdone, hnext⟩ := hread.firm c hc
  obtain ⟨x, xs, hcons, hx⟩ := hname.head
  obtain ⟨-, -, hcomment, hbracket, hfeed, hreturn, -⟩ := isKeyChar_ne hx
  rw [toList_writeEntry, hcons] at hc
  refine ⟨d', next, ?_, hnext⟩
  unfold statement
  split
  all_goals rename_i heq
  · cases hc.symm.trans heq
  · exact absurd (List.cons.inj (hc.symm.trans heq)).1 hcomment
  · exact absurd (List.cons.inj (hc.symm.trans heq)).1 hbracket
  · exact absurd (List.cons.inj (hc.symm.trans heq)).1 hbracket
  · exact absurd (List.cons.inj (hc.symm.trans heq)).1 hbracket
  · exact absurd (List.cons.inj (hc.symm.trans heq)).1 hfeed
  · exact absurd (List.cons.inj (hc.symm.trans heq)).1 hreturn
  · exact hdone

/-- A header begins a table. -/
lemma reads_statement_header (hname : IsPlainName name)
    (hd : ∀ k span, IsKey name k → ∃ d', d.begin false k span = some d' ∧ Q d') :
    Reads (statement d) (Statement.header name).text rest Q := by
  intro c hc
  have hkey : Reads key (name.toList ++ []) ([']'] ++ (['\n'] ++ rest)) (IsKey name) :=
    reads_key hname (.inl rfl) (by decide) _
  rw [List.append_nil] at hkey
  have hbrackets : Reads
      (do let _ ← literal ['[']; let k ← firm key; let _ ← firm (literal [']']); return k)
      (['['] ++ (name.toList ++ [']'])) (['\n'] ++ rest) (IsKey name) :=
    (reads_literal ['['] _).bind fun _ _ => hkey.firm.bind fun k hk =>
      (reads_literal [']'] _).firm.bind_pure fun _ _ => hk
  have hread : Reads (header ['['] [']'] false d) (['['] ++ (name.toList ++ [']']) ++ ['\n']) rest
      Q := by
    refine Reads.checked (P := fun p => IsKey name p.1) ?_ fun p hp => hd p.1 p.2 hp
    exact hbrackets.spanned.bind fun p hp => (reads_lineTrailing rest).firm.bind_pure fun _ _ => hp
  obtain ⟨d', next, hdone, hnext⟩ := hread.firm c (by rw [hc]; simp [Statement.text])
  obtain ⟨x, xs, hcons, hx⟩ := hname.head
  obtain ⟨-, -, -, hbracket, -⟩ := isKeyChar_ne hx
  rw [Statement.text, hcons] at hc
  refine ⟨d', next, ?_, hnext⟩
  unfold statement
  split
  all_goals rename_i heq
  · cases hc.symm.trans heq
  · cases hc.symm.trans heq
  · exact absurd (List.cons.inj (List.cons.inj (hc.symm.trans heq)).2).1 hbracket
  · cases hc.symm.trans heq
  · exact hdone
  · cases hc.symm.trans heq
  · cases hc.symm.trans heq
  · rename_i hopening _
    exact absurd hc (hopening _)

/-- A blank line changes nothing. -/
lemma reads_statement_blank (d : Draft) (rest : List Char) :
    Reads (statement d) Statement.blank.text rest (· = d) := by
  intro c hc
  obtain ⟨_, next, hdone, hnext, -⟩ := reads_newline rest c hc
  refine ⟨d, next, ?_, hnext, rfl⟩
  have hread : (newline >>= fun _ => pure d) c = .done d next := by
    show (newline c).andThen _ = _
    rw [hdone]
    rfl
  rw [statement.eq_def, hc]
  exact hread

end Lines

/-! ## Files that are read so far -/

/-- A file that is read so far, and has what an outline says. -/
structure Draft.Shows (d : Draft) (o : Outline) : Prop where
  plain : d.current.form.dotted = false
  current : Say d.current.entries o.current
  header : match o.header with
    | none => d.header = none
    | some name => (∃ k, IsKey name k ∧ d.header = some k) ∧ d.isElement = false ∧
        Say d.root.entries o.front ∧ name ∉ o.front.names

namespace Draft.Shows

variable {d : Draft} {o : Outline} {key : KeyPath}

/-- A draft that begins shows nothing. -/
lemma start : Draft.start.Shows {} := ⟨rfl, .nil, rfl⟩

/-- The table under way is put into its place. -/
lemma finish (h : d.Shows o) : ∃ t, d.finish = some t ∧ Say t.entries o.finished := by
  have hheader := h.header
  unfold Draft.finish Outline.finished
  cases hcase : o.header with
  | none =>
    rw [hcase] at hheader
    rw [hheader]
    exact ⟨d.current, rfl, h.current⟩
  | some name =>
    rw [hcase] at hheader
    obtain ⟨⟨_, ⟨span, rfl⟩, hkey⟩, helement, hfront, hfresh⟩ := hheader
    have hpush : pushTable ⟨name, span⟩ d.current d.root =
        some (d.root.push ⟨name, span⟩ d.current.toItem, ()) := by
      have hfree : d.root.get? name = none := hfront.get?_eq_none hfresh
      simp only [pushTable, hfree]
    refine ⟨d.root.push ⟨name, span⟩ d.current.toItem, ?_,
      hfront.push ⟨d.current.form, d.current.entries, rfl, h.current⟩⟩
    simp only [hkey, helement, Table.alter]
    exact congrArg (Option.map Prod.fst) hpush

/-- A new entry is put into the table under way. -/
lemma addEntry (h : d.Shows o) (hkey : IsKey name key) (hfresh : name ∉ o.current.names)
    (hitem : P item) :
    ∃ d', d.addEntry key item = some d' ∧
      d'.Shows { o with current := o.current ++ [(name, P)] } := by
  obtain ⟨span, rfl⟩ := hkey
  have hfree (form : TableForm) : (Table.mk form d.current.entries).get? name = none :=
    h.current.get?_eq_none hfresh
  simp only [Draft.addEntry, Table.insert, Table.alter, Table.pushNew, hfree, h.plain]
  exact ⟨_, rfl, rfl, h.current.push hitem, h.header⟩

/-- A header begins an empty table. -/
lemma begin (h : d.Shows o) (hkey : IsKey name key) (hfresh : name ∉ o.finished.names)
    (span : Span) :
    ∃ d', d.begin false key span = some d' ∧ d'.Shows ⟨some name, o.finished, []⟩ := by
  obtain ⟨t, hfinish, hsay⟩ := h.finish
  obtain ⟨place, rfl⟩ := hkey
  have htake : takeTable ⟨name, place⟩ t = some (t, []) := by
    have hfree : t.get? name = none := hsay.get?_eq_none hfresh
    simp only [takeTable, hfree]
  refine ⟨⟨t, Draft.written span [], some ⟨[], ⟨name, place⟩⟩, false⟩, ?_, rfl, .nil,
    ⟨_, ⟨place, rfl⟩, rfl⟩, rfl, hsay, hfresh⟩
  simp only [Draft.begin, hfinish, Table.alter, Bool.false_eq_true, if_false, htake]

/-- **One statement** that may follow is read, and the file shows what it says. -/
lemma reads_statement (h : d.Shows o) {s : Statement} (hs : o.Takes s) {rest : List Char} :
    Reads (statement d) s.text rest fun d' => d'.Shows (o.after s) := by
  cases s with
  | entry name value kind =>
    obtain ⟨hname, hfresh, hvalue⟩ := hs
    refine reads_statement_entry hname (hvalue _ (by simp [NoQuote])) fun k item hk hitem => ?_
    exact h.addEntry hk hfresh hitem
  | header name => exact reads_statement_header hs.1 fun k span hk => h.begin hk hs.2 span
  | blank => exact (reads_statement_blank d rest).imp (by rintro _ rfl; exact h)

end Draft.Shows

/-! ## Whole files -/

/-- Statements that may follow one after the other. -/
def Outline.TakesAll (o : Outline) : List Statement → Prop
  | [] => True
  | s :: ss => o.Takes s ∧ (o.after s).TakesAll ss

/-- What is said with more statements. -/
def Outline.afterAll (o : Outline) (ss : List Statement) : Outline := ss.foldl Outline.after o

/-- Statements as they are written. -/
def textOfAll (ss : List Statement) : List Char := ss.flatMap Statement.text

/-- The statements of a whole text are read, with rounds enough. -/
def Completes (d : Draft) (text : List Char) (Q : Draft → Prop) : Prop :=
  ∀ rounds, text.length < rounds → Reads (statementsWithin rounds d) text [] Q

/-- No statement is without characters. -/
lemma text_ne_nil (s : Statement) : s.text ≠ [] := by
  cases s with
  | entry name value kind => simp [Statement.text, toList_writeEntry]
  | _ => nofun

/-- A statement does not begin with a blank, nor with the mark of the byte order. -/
lemma Outline.Takes.head {o : Outline} {s : Statement} (h : o.Takes s) (rest : List Char) :
    Stops isBlank (s.text ++ rest) ∧ (s.text ++ rest).head? ≠ some '\uFEFF' := by
  cases s with
  | entry name value kind =>
    obtain ⟨x, xs, hcons, hx⟩ := h.1.head
    rw [Statement.text, toList_writeEntry, hcons]
    refine ⟨stops_cons (isKeyChar_ne hx).2.2.2.2.2.2 _, ?_⟩
    rintro ⟨⟩
    exact absurd hx (by decide)
  | header name => exact ⟨stops_cons (by decide) _, by simp [Statement.text]⟩
  | blank => exact ⟨stops_cons (by decide) _, by simp [Statement.text]⟩

/-- Statements that follow one another begin neither with a blank nor with a byte order mark. -/
lemma Outline.TakesAll.head {o : Outline} {ss : List Statement} (h : o.TakesAll ss) :
    Stops isBlank (textOfAll ss) ∧ (textOfAll ss).head? ≠ some '\uFEFF' := by
  cases ss with
  | nil => exact ⟨stops_nil, nofun⟩
  | cons s ss => exact h.1.head _

/-- At the end of the text a draft is complete as it is. -/
lemma completes_nil {d : Draft} {Q : Draft → Prop} (h : Q d) : Completes d [] Q := by
  intro rounds hrounds c hc
  cases rounds with
  | zero => cases hrounds
  | succ rounds =>
    refine ⟨d, c, ?_, hc, h⟩
    have hmiss : statement d c = .miss c := by rw [statement.eq_def, hc]; rfl
    rw [statementsWithin]
    simp only [hmiss]

/-- A draft is completed by a statement and then by what follows. -/
lemma completes_append {d : Draft} {text more : List Char} {P Q : Draft → Prop}
    (h : Reads (statement d) text more P) (hne : text ≠ []) (hblank : Stops isBlank more)
    (hmore : ∀ d', P d' → Completes d' more Q) : Completes d (text ++ more) Q := by
  intro rounds hrounds c hc
  cases rounds with
  | zero => cases hrounds
  | succ rounds =>
    have hlength : more.length < rounds := by
      have hpos := List.length_pos_iff.mpr hne
      rw [List.length_append] at hrounds
      omega
    obtain ⟨d₁, c₁, hdone₁, hc₁, hd₁⟩ := h c (by rw [hc, List.append_nil])
    obtain ⟨_, c₂, hdone₂, hc₂, -⟩ := reads_noBlanks hblank c₁ hc₁
    obtain ⟨d₃, c₃, hdone₃, hc₃, hd₃⟩ :=
      hmore d₁ hd₁ rounds hlength c₂ (by rw [hc₂, List.append_nil])
    refine ⟨d₃, c₃, ?_, hc₃, hd₃⟩
    rw [statementsWithin]
    simp only [hdone₁, hdone₂, Outcome.andThen]
    exact hdone₃

/-- **All statements** that may follow are read, and the file shows what they say.

**Proof sketch.** Induction on the statements, with `Draft.Shows.reads_statement` for each. -/
lemma Draft.Shows.completes {d : Draft} {o : Outline} (h : d.Shows o) {ss : List Statement}
    (hss : o.TakesAll ss) : Completes d (textOfAll ss) fun d' => d'.Shows (o.afterAll ss) := by
  induction ss generalizing d o with
  | nil => exact completes_nil h
  | cons s ss ih =>
    exact completes_append (h.reads_statement hss.1) (text_ne_nil s) hss.2.head.1
      fun d' hd' => ih hd' hss.2

/-- **A whole file is read** to a table that has what its statements say. -/
lemma readTable_statements {ss : List Statement} (hss : Outline.TakesAll {} ss) {text : String}
    (htext : text.toList = textOfAll ss) :
    ∃ t, readTable text = .ok t ∧ Say t.entries (Outline.afterAll {} ss).finished := by
  obtain ⟨hblank, hmark⟩ := hss.head
  have hc : (Cursor.ofText text).rest = [] ++ textOfAll ss := htext
  obtain ⟨_, c₁, hdone₁, hc₁, -⟩ := (misses_symbol hmark).maybe _ hc
  obtain ⟨_, c₂, hdone₂, hc₂, -⟩ := reads_noBlanks hblank c₁ hc₁
  obtain ⟨d, c₃, hdone₃, hc₃, hd⟩ := Draft.Shows.start.completes hss (c₂.rest.length + 1)
    (by rw [hc₂]; omega) c₂ (by rw [hc₂, List.append_nil])
  obtain ⟨t, hfinish, hsay⟩ := hd.finish
  refine ⟨t, ?_, hsay⟩
  have hend : atEnd c₃ = .done () c₃ := by rw [atEnd, hc₃]; rfl
  simp only [readTable, file, hdone₁, hdone₂, hdone₃, hend, Outcome.andThen, hfinish]

end CodeCatalog.Toml
