import CodeCatalog.Proofs.Toml.Texts
import CodeCatalog.Toml.Reader

/-!
# Values, written and read back

Texts, truth values and arrays of texts are read back as they were written.

## Main definitions

* `CodeCatalog.Toml.IsText`, `IsBoolean`, `IsTexts` — values without their places.

## Main results

* `CodeCatalog.Toml.reads_fileValue_text`, `reads_fileValue_boolean`, `reads_fileValue_texts` —
  values of a file.
-/

namespace CodeCatalog.Toml

/-! ## Kinds of values -/

/-- A text, wherever it stands. -/
def IsText (s : String) (item : Item) : Prop := ∃ span, item = .text span s

/-- A truth value, wherever it stands. -/
def IsBoolean (b : Bool) (item : Item) : Prop := ∃ span, item = .boolean span b

/-- An array of texts, wherever they stand. -/
def IsTexts (ss : List String) (item : Item) : Prop :=
  ∃ span items, item = .array span items ∧ Each items (ss.map IsText)

variable {α β : Type} {r : Reader α} {separator : Reader β} {text more rest : List Char}
  {P : α → Prop} {Q : Item → Prop} {Ps : List (α → Prop)}

/-- An item is read with its place if what it is made of is read. -/
lemma Reads.placed {item : Span → α → Item} (h : Reads r text rest P)
    (hitem : ∀ span a, P a → Q (item span a)) : Reads (placed r item) text rest Q :=
  h.spanned.bind_pure fun p hp => hitem p.2 p.1 hp

/-! ## Single values -/

/-- Every form of a text begins with a quote. -/
lemma write_eq_cons (form : TextForm) (text : List Char) :
    ∃ x xs, form.write text = x :: xs ∧ (x = '"' ∨ x = '\x27') := by
  cases form with
  | basic => exact ⟨_, _, rfl, .inl rfl⟩
  | literal => exact ⟨_, _, rfl, .inr rfl⟩
  | basicBlock => exact ⟨_, _, rfl, .inl rfl⟩
  | literalBlock => exact ⟨_, _, rfl, .inr rfl⟩

/-- A text is written in the form that is chosen for it. -/
lemma toList_writeText (s : String) :
    (writeText s).toList = (chooseForm s.toList).write s.toList := String.toList_ofList

/-- A text is read back, whatever may be nested. -/
lemma reads_valueWith_text (nested : Option (Reader Item)) (s : String) (hrest : NoQuote rest) :
    Reads (valueWith nested) (writeText s).toList rest (IsText s) := by
  intro c hc
  have hread : Reads (Toml.placed anyText fun span s => .text span (String.ofList s))
      (writeText s).toList rest (IsText s) := by
    rw [toList_writeText]
    refine (reads_anyText s.toList hrest).placed ?_
    rintro span _ rfl
    exact ⟨span, by rw [String.ofList_toList]⟩
  obtain ⟨item, next, hdone, hnext⟩ := hread c hc
  obtain ⟨x, xs, hwrite, hx⟩ := write_eq_cons (chooseForm s.toList) s.toList
  rw [toList_writeText, hwrite] at hc
  refine ⟨item, next, ?_, hnext⟩
  rw [valueWith.eq_def, hc]
  exact (if_pos hx).trans hdone

/-- A truth value is read back, whatever else can be read. -/
lemma reads_valueWith_boolean (nested : Option (Reader Item)) (b : Bool) :
    Reads (valueWith nested) (writeBoolean b).toList rest (IsBoolean b) := by
  intro c hc
  have hread (word : List Char) (hword : (writeBoolean b).toList = word) :
      Reads (Toml.placed (firm (literal word)) fun span _ => .boolean span b)
        (writeBoolean b).toList rest (IsBoolean b) := by
    rw [hword]
    exact (reads_literal word rest).firm.placed fun span _ _ => ⟨span, rfl⟩
  cases b with
  | true =>
    obtain ⟨item, next, hdone, hnext⟩ := hread ['t', 'r', 'u', 'e'] rfl c hc
    refine ⟨item, next, ?_, hnext⟩
    rw [valueWith.eq_def, hc]
    exact hdone
  | false =>
    obtain ⟨item, next, hdone, hnext⟩ := hread ['f', 'a', 'l', 's', 'e'] rfl c hc
    refine ⟨item, next, ?_, hnext⟩
    rw [valueWith.eq_def, hc]
    exact hdone

/-- A closing bracket begins no value. -/
lemma misses_valueWith (nested : Option (Reader Item)) (rest : List Char) :
    Misses (valueWith nested) (']' :: rest) := by
  intro c hc
  refine ⟨c, ?_⟩
  rw [valueWith.eq_def, hc]
  rfl

/-! ## Between the items of an array -/

/-- A text that begins with neither a blank nor the end of a line nor a comment. -/
def Visible (text : List Char) : Prop :=
  ∀ x ∈ text.head?, isBlank x = false ∧ x ≠ '#' ∧ x ≠ '\n' ∧ x ≠ '\r'

/-- A text is visible if its first character is. -/
lemma visible_cons {x : Char} (h : isBlank x = false ∧ x ≠ '#' ∧ x ≠ '\n' ∧ x ≠ '\r')
    (xs : List Char) : Visible (x :: xs) := by
  intro y hy
  obtain rfl : x = y := by simpa using hy
  exact h

/-- A written text is visible. -/
lemma visible_writeText (s : String) (rest : List Char) :
    Visible ((writeText s).toList ++ rest) := by
  obtain ⟨x, xs, hwrite, hx⟩ := write_eq_cons (chooseForm s.toList) s.toList
  rw [toList_writeText, hwrite]
  obtain rfl | rfl := hx <;> exact visible_cons (by decide) _

/-- A written text does not begin with a closing bracket. -/
lemma head?_writeText (s : String) (rest : List Char) :
    ((writeText s).toList ++ rest).head? ≠ some ']' := by
  obtain ⟨x, xs, hwrite, hx⟩ := write_eq_cons (chooseForm s.toList) s.toList
  rw [toList_writeText, hwrite]
  obtain rfl | rfl := hx <;> simp

/-- Blanks before something visible are passed over at once. -/
lemma reads_betweenItemsWithin {bs : List Char} (hbs : ∀ x ∈ bs, isBlank x = true)
    (hrest : Visible rest) (rounds : Nat) :
    Reads (betweenItemsWithin (rounds + 1)) bs rest fun _ => True := by
  intro c hc
  obtain ⟨_, c₁, hdone, hc₁, -⟩ := reads_blanks hbs (fun x hx => (hrest x hx).1) c hc
  refine ⟨(), c₁, ?_, hc₁, trivial⟩
  simp only [betweenItemsWithin, hdone, Outcome.andThen, hc₁]
  cases rest with
  | nil => rfl
  | cons x xs =>
    obtain ⟨-, hcomment, hfeed, hreturn⟩ := hrest x rfl
    split
    · rename_i heq
      exact absurd (List.cons.inj heq).1 hcomment
    · rename_i heq
      exact absurd (List.cons.inj heq).1 hfeed
    · rename_i heq
      exact absurd (List.cons.inj heq).1 hreturn
    · rfl

/-- Nothing stands between items. -/
lemma reads_betweenItems_nil (hrest : Visible rest) :
    Reads betweenItems [] rest fun _ => True :=
  fun c hc => reads_betweenItemsWithin (List.forall_mem_nil _) hrest _ c hc

/-- The end of a line and blanks stand between items. -/
lemma reads_betweenItems_feed {bs : List Char} (hbs : ∀ x ∈ bs, isBlank x = true)
    (hrest : Visible rest) : Reads betweenItems ('\n' :: bs) rest fun _ => True := by
  intro c hc
  have hnone : Reads blanks [] ('\n' :: (bs ++ rest)) fun _ => True :=
    reads_noBlanks (stops_cons (by decide) _)
  obtain ⟨_, c₁, hdone₁, hc₁, -⟩ := hnone c hc
  obtain ⟨_, c₂, hdone₂, hc₂, -⟩ := reads_newline (bs ++ rest) c₁ hc₁
  obtain ⟨_, c₃, hdone₃, hc₃, -⟩ := reads_betweenItemsWithin hbs hrest (bs ++ rest).length c₂ hc₂
  refine ⟨(), c₃, ?_, hc₃, trivial⟩
  have hrounds : c.rest.length + 1 = (bs ++ rest).length + 1 + 1 := by rw [hc]; rfl
  rw [betweenItems, hrounds]
  simp only [betweenItemsWithin, hdone₁, Outcome.andThen, hc₁, hdone₂]
  exact hdone₃

/-! ## Arrays -/

/-- Items with separators between them. -/
lemma Reads.separatedMaybe (h : Reads r text (more ++ rest) P)
    (hmore : ReadsMany (separator >>= fun _ => r) rest more Ps) :
    Reads (separatedMaybe separator r) (text ++ more) rest fun as => Each as (P :: Ps) := by
  refine h.maybe.bind ?_
  rintro _ ⟨a, rfl, ha⟩
  exact hmore.repeated.bind_pure fun others hothers => .cons ha hothers

/-- Items with separators between them, at least one. -/
lemma Reads.separatedOnce (h : Reads r text (more ++ rest) P)
    (hmore : ReadsMany (separator >>= fun _ => r) rest more Ps) :
    Reads (separatedOnce separator r) (text ++ more) rest fun as => Each as (P :: Ps) :=
  h.bind fun _ ha => hmore.repeated.bind_pure fun _ hothers => .cons ha hothers

/-- What stands before an item that has a line of its own. -/
def lineBefore : List Char := ['\n', ' ', ' ', ' ', ' ']

/-- What may follow an item: a comma or a closing bracket. -/
def EndsItem (rest : List Char) : Prop := ∃ xs, rest = ',' :: xs ∨ rest = ']' :: xs

/-- What follows an item is no quote. -/
lemma EndsItem.noQuote (h : EndsItem rest) : NoQuote rest := by
  obtain ⟨xs, rfl | rfl⟩ := h <;> simp [NoQuote]

/-- What follows an item is visible. -/
lemma EndsItem.visible (h : EndsItem rest) : Visible rest := by
  obtain ⟨xs, rfl | rfl⟩ := h <;> exact visible_cons (by decide) xs

section Array

variable {value : Reader Item}

/-- A reader of values that reads texts, and finds none at a closing bracket. -/
structure ReadsTexts (value : Reader Item) : Prop where
  text : ∀ s rest, NoQuote rest → Reads value (writeText s).toList rest (IsText s)
  closing : ∀ rest, Misses value (']' :: rest)

/-- Texts are read as values, whatever else can be read. -/
lemma readsTexts_valueWith (nested : Option (Reader Item)) : ReadsTexts (valueWith nested) where
  text := fun s _ hrest => reads_valueWith_text nested s hrest
  closing := misses_valueWith nested

/-- Texts are read as values at every depth. -/
lemma readsTexts_value (depth : Nat) : ReadsTexts (Toml.value depth) := by
  cases depth with
  | zero => exact readsTexts_valueWith none
  | succ depth => exact readsTexts_valueWith (some (Toml.value depth))

/-- An item, on a line of its own or not. -/
lemma ReadsTexts.arrayItem (h : ReadsTexts value) (s : String) {before : List Char}
    (hbefore : before = [] ∨ before = lineBefore) (hrest : EndsItem rest) :
    Reads (arrayItem value) (before ++ (writeText s).toList) rest (IsText s) := by
  have hlead : Reads betweenItems before ((writeText s).toList ++ rest) fun _ => True := by
    obtain rfl | rfl := hbefore
    · exact reads_betweenItems_nil (visible_writeText s rest)
    · exact reads_betweenItems_feed (List.all_eq_true.mp (by decide)) (visible_writeText s rest)
  refine hlead.bind fun _ _ => ?_
  have hread : Reads (value >>= fun v => betweenItems >>= fun _ => pure v)
      ((writeText s).toList ++ []) rest (IsText s) :=
    (h.text s _ (by simpa using hrest.noQuote)).bind fun v hv =>
      (reads_betweenItems_nil hrest.visible).bind_pure fun _ _ => hv
  rwa [List.append_nil] at hread

/-- The items behind the first one, each behind a comma and on a line of its own, up to the comma
behind the last one. -/
lemma ReadsTexts.readsMany (h : ReadsTexts value) (ss : List String) (rest : List Char) :
    ReadsMany (symbol ',' >>= fun _ => Toml.arrayItem value) (',' :: '\n' :: ']' :: rest)
      (ss.flatMap fun s => ',' :: (lineBefore ++ (writeText s).toList)) (ss.map IsText) := by
  induction ss with
  | nil =>
    refine .nil ((reads_symbol ',' _).bind_misses fun _ _ => ?_)
    have hbetween : Reads betweenItems ['\n'] (']' :: rest) fun _ => True :=
      reads_betweenItems_feed (List.forall_mem_nil _) (visible_cons (by decide) _)
    exact hbetween.bind_misses fun _ _ => (h.closing rest).bind
  | cons s ss ih =>
    rw [List.flatMap_cons, List.map_cons]
    refine .cons ?_ (by simp) ih
    have hends : EndsItem ((ss.flatMap fun s => ',' :: (lineBefore ++ (writeText s).toList)) ++
        ',' :: '\n' :: ']' :: rest) := by
      cases ss with
      | nil => exact ⟨_, .inl rfl⟩
      | cons s' ss => exact ⟨_, .inl rfl⟩
    exact (reads_symbol ',' _).bind fun _ _ => h.arrayItem s (.inr rfl) hends

/-- The items of an array, and what stands behind the last one. -/
def itemsThenEnd (value : Reader Item) : Reader (List Item) :=
  separatedMaybe (symbol ',') (arrayItem value) >>= fun items =>
    (if items.isEmpty then pure none else maybe (symbol ',')) >>= fun _ =>
      betweenItems >>= fun _ => pure items

/-- An array that is not closed at once has items. -/
lemma arrayItems_of_head? {c : Cursor} (hc : c.rest.head? ≠ some ']') :
    arrayItems value c = itemsThenEnd value c := by
  unfold arrayItems
  split
  · rename_i heq
    rw [heq] at hc
    exact absurd rfl hc
  · rfl

/-- Items and what stands behind them, up to the closing bracket: a comma or none, and the end of a
line or nothing. -/
lemma Reads.itemsThenEnd {items comma line : List Char} {P : Item → Prop} {Ps : List (Item → Prop)}
    (h : Reads (Toml.separatedMaybe (symbol ',') (Toml.arrayItem value)) items
      (comma ++ line ++ rest) fun as => Each as (P :: Ps))
    (hcomma : Reads (Toml.maybe (symbol ',')) comma (line ++ rest) fun _ => True)
    (hline : Reads betweenItems line rest fun _ => True) :
    Reads (Toml.itemsThenEnd value) (items ++ (comma ++ line)) rest
      fun as => Each as (P :: Ps) := by
  refine h.bind fun as has => ?_
  have hsome : as.isEmpty = false := by
    cases has
    rfl
  rw [hsome]
  exact hcomma.bind fun _ _ => hline.bind_pure fun _ _ => has

/-- The commas behind the items stand as well before the items that follow. -/
lemma flatMap_comma (f : String → List Char) (ss : List String) :
    ',' :: (ss.flatMap fun s => f s ++ [',']) = (ss.flatMap fun s => ',' :: f s) ++ [','] := by
  induction ss with
  | nil => rfl
  | cons s ss ih =>
    rw [List.flatMap_cons, List.flatMap_cons, List.append_assoc, List.append_assoc, ← ih]
    rfl

/-- Several items on lines of their own. -/
def itemLines (s : String) (ss : List String) : List Char :=
  lineBefore ++ (writeText s).toList ++
    ((ss.flatMap fun s => ',' :: (lineBefore ++ (writeText s).toList)) ++ ([','] ++ ['\n']))

/-- Several texts stand on lines of their own, each with a comma behind it. -/
lemma toList_writeTexts_cons (s s' : String) (ss : List String) :
    (writeTexts (s :: s' :: ss)).toList = '[' :: (itemLines s (s' :: ss) ++ [']']) := by
  have hline (t : String) : s!"\n    {writeText t},".toList =
      (lineBefore ++ (writeText t).toList) ++ [','] := by simp [toString, lineBefore]
  have hcomma := flatMap_comma (fun t => lineBefore ++ (writeText t).toList) (s' :: ss)
  rw [writeTexts, itemLines]
  · simp only [String.toList_append, String.toList_join, List.flatMap_map, hline]
    rw [List.flatMap_cons, List.append_assoc (lineBefore ++ _) [','], List.singleton_append, hcomma]
    simp
  · nofun
  · nofun

/-- A single text is read back from an array on one line. -/
lemma ReadsTexts.arrayItems_single (h : ReadsTexts value) (s : String) (rest : List Char) :
    Reads (arrayItems value) (writeText s).toList (']' :: rest)
      fun items => Each items [IsText s] := by
  intro c hc
  have hfirst :
      Reads (Toml.arrayItem value) ([] ++ (writeText s).toList) (']' :: rest) (IsText s) :=
    h.arrayItem s (.inl rfl) ⟨rest, .inr rfl⟩
  rw [List.nil_append] at hfirst
  have hcomma : Misses (symbol ',') (']' :: rest) := misses_symbol (by simp)
  have hread := Reads.itemsThenEnd (hfirst.separatedMaybe (.nil hcomma.bind))
    (hcomma.maybe.imp fun _ _ => trivial) (reads_betweenItems_nil (visible_cons (by decide) _))
  rw [arrayItems_of_head? (by rw [hc]; exact head?_writeText s _)]
  exact hread c (by rw [hc]; simp)

/-- Two or more texts are read back from an array with a line for each of them. -/
lemma ReadsTexts.arrayItems_several (h : ReadsTexts value) (s s' : String) (ss : List String)
    (rest : List Char) :
    Reads (arrayItems value) (itemLines s (s' :: ss)) (']' :: rest)
      fun items => Each items (IsText s :: (s' :: ss).map IsText) := by
  intro c hc
  have hends : EndsItem (((s' :: ss).flatMap fun s => ',' :: (lineBefore ++ (writeText s).toList))
      ++ ',' :: '\n' :: ']' :: rest) := ⟨_, .inl rfl⟩
  have hitems := (h.arrayItem s (.inr rfl) hends).separatedMaybe (h.readsMany (s' :: ss) rest)
  have hcomma := (reads_symbol ',' (['\n'] ++ ']' :: rest)).maybe
  have hread := Reads.itemsThenEnd hitems (hcomma.imp fun _ _ => trivial)
    (reads_betweenItems_feed (List.forall_mem_nil _) (visible_cons (by decide) _))
  rw [arrayItems_of_head? (by rw [hc]; simp [itemLines, lineBefore])]
  exact hread c (by rw [hc]; simp [itemLines])

/-- The items of an array, up to its closing bracket. -/
lemma ReadsTexts.arrayItems (h : ReadsTexts value) (ss : List String) :
    ∃ inner, (writeTexts ss).toList = '[' :: (inner ++ [']']) ∧
      ∀ rest, Reads (Toml.arrayItems value) inner (']' :: rest)
        fun items => Each items (ss.map IsText) := by
  match ss with
  | [] => exact ⟨[], rfl, fun rest c hc => ⟨[], c, by rw [Toml.arrayItems, hc]; rfl, hc, .nil⟩⟩
  | [s] => exact ⟨_, by simp [writeTexts, toString], h.arrayItems_single s⟩
  | s :: s' :: ss => exact ⟨_, toList_writeTexts_cons s s' ss, h.arrayItems_several s s' ss⟩

/-- **Arrays of texts are read back.** -/
lemma ReadsTexts.array (h : ReadsTexts value) (ss : List String) (rest : List Char) :
    Reads (Toml.array value) (writeTexts ss).toList rest
      fun items => Each items (ss.map IsText) := by
  obtain ⟨inner, heq, hinner⟩ := h.arrayItems ss
  rw [heq]
  refine (reads_symbol '[' _).bind fun _ _ => ?_
  refine (hinner rest).firm.bind fun items hitems => ?_
  exact (reads_symbol ']' rest).firm.bind_pure fun _ _ => hitems

end Array

/-! ## Values of a file -/

/-- The values of a file may hold values up to the limit of nesting. -/
lemma fileValue_eq : fileValue = valueWith (some (value (nestingLimit - 2))) := rfl

/-- A text is read back as a value of a file. -/
lemma reads_fileValue_text (s : String) (hrest : NoQuote rest) :
    Reads fileValue (writeText s).toList rest (IsText s) :=
  fileValue_eq ▸ reads_valueWith_text _ s hrest

/-- A truth value is read back as a value of a file. -/
lemma reads_fileValue_boolean (b : Bool) (rest : List Char) :
    Reads fileValue (writeBoolean b).toList rest (IsBoolean b) :=
  fileValue_eq ▸ reads_valueWith_boolean _ b

/-- A list of texts is read back as a value of a file. -/
lemma reads_fileValue_texts (ss : List String) (rest : List Char) :
    Reads fileValue (writeTexts ss).toList rest (IsTexts ss) := by
  intro c hc
  have hread : Reads (placed (array (value (nestingLimit - 2))) .array) (writeTexts ss).toList rest
      (IsTexts ss) :=
    ((readsTexts_value _).array ss rest).placed fun span items hitems => ⟨span, items, rfl, hitems⟩
  obtain ⟨item, next, hdone, hnext⟩ := hread c hc
  obtain ⟨inner, heq, -⟩ := (readsTexts_value (nestingLimit - 2)).arrayItems ss
  rw [heq] at hc
  refine ⟨item, next, ?_, hnext⟩
  rw [fileValue_eq, valueWith.eq_def, hc]
  exact hdone

end CodeCatalog.Toml
