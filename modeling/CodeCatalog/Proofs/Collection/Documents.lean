import CodeCatalog.Collection.Lines
import CodeCatalog.Proofs.Json.Values
import CodeCatalog.Proofs.Text.Bytes
import CodeCatalog.Proofs.Text.Lines

/-!
# Documents, written to lines and read back

A document whose data is flat is written on one line: nothing in its text ends a line, and the
line is read as the document. So the documents of a file are those that were written to it.

## Main definitions

* `CodeCatalog.Document.Flat` — a document with flat data, in the order of keys.
* `CodeCatalog.linesOf` — the text of a collection file.

## Main results

* `CodeCatalog.Document.Flat.reads` — a written document is read as the document.
* `CodeCatalog.Document.Flat.noControls` — its text has no control character.
* `CodeCatalog.LineCollection.documentsOf_linesOf` — written documents are found in the file.
-/

namespace CodeCatalog

open Json

/-! ## Texts without control characters -/

namespace Json

open Text (NoControls)

/-- An escaped character has no control characters. -/
lemma noControls_escapeChar (c : Char) : NoControls (escapeChar c) := by
  have hhex : ∀ n < 16, 32 ≤ (hexDigit n).toNat := by decide
  unfold escapeChar
  split_ifs with hquote hescape hb ht hn hf hr hcontrol
  any_goals decide
  · have hdigits : NoControls [hexDigit (c.toNat / 16), hexDigit (c.toNat % 16)] :=
      .cons (hhex _ (by omega)) (.cons (hhex _ (by omega)) (List.forall_mem_nil _))
    exact (show NoControls ['\\', 'u', '0', '0'] by decide).append hdigits
  · exact .cons (Nat.le_of_not_lt hcontrol) (List.forall_mem_nil _)

/-- A text in quotes has no control characters. -/
lemma noControls_stringText (s : String) : NoControls (stringText s) :=
  .cons (by decide) (.append (.flatMap noControls_escapeChar) (by decide))

/-- A number in digits has no control characters. -/
lemma noControls_natText (n : Nat) : NoControls (natText n) := by
  intro x hx
  have hdigit := isDigit_of_mem_natText hx
  simp only [Char.isDigit, Bool.and_eq_true, decide_eq_true_eq] at hdigit
  exact Nat.le_trans (by decide) (UInt32.le_iff_toNat_le.mp hdigit.1)

/-- Texts one after the other without blanks. -/
lemma noControls_inLayout (level : Nat) (isFirst : Bool) {ts : List (List Char)}
    (hts : ∀ t ∈ ts, NoControls t) : NoControls (inLayout .compact level isFirst ts) := by
  induction ts generalizing isFirst with
  | nil => exact List.forall_mem_nil _
  | cons t ts ih =>
    have hlead : NoControls (Layout.compact.lead level isFirst) := by
      cases isFirst with
      | true => exact List.forall_mem_nil _
      | false => exact .cons (by decide) (List.forall_mem_nil _)
    have hmore := ih false fun t ht => hts t (List.mem_cons_of_mem _ ht)
    exact hlead.append ((hts t List.mem_cons_self).append hmore)

/-- The compact layout has no line feeds. -/
lemma noControls_tail (level : Nat) (isEmpty : Bool) :
    NoControls (Layout.compact.tail level isEmpty) := by
  cases isEmpty <;> exact List.forall_mem_nil _

/-- **A value that is written without blanks is written without control characters.** -/
lemma Value.Fits.noControls {depth : Nat} {v : Value} (h : v.Fits depth) (level : Nat) :
    NoControls (v.write .compact level) := by
  induction h generalizing level with
  | null => exact (show NoControls ['n', 'u', 'l', 'l'] by decide)
  | bool _ b =>
    cases b with
    | true => exact (show NoControls ['t', 'r', 'u', 'e'] by decide)
    | false => exact (show NoControls ['f', 'a', 'l', 's', 'e'] by decide)
  | natural => exact noControls_natText _
  | negative => exact .cons (by decide) (noControls_natText _)
  | string => exact noControls_stringText _
  | array _ ih =>
    rw [Value.write, writeItems_eq]
    refine .cons (by decide) (.append (noControls_inLayout _ _ fun t ht => ?_)
      ((noControls_tail _ _).append (by decide)))
    obtain ⟨v, hv, rfl⟩ := List.mem_map.mp ht
    exact ih v hv (level + 1)
  | object _ ih =>
    rw [Value.write, writeMembers_eq]
    refine .cons (by decide) (.append (noControls_inLayout _ _ fun t ht => ?_)
      ((noControls_tail _ _).append (by decide)))
    obtain ⟨m', hm', rfl⟩ := List.mem_map.mp ht
    obtain ⟨m, hm, rfl⟩ := List.mem_map.mp hm'
    exact (noControls_stringText m.1).append (.cons (by decide) (ih m hm (level + 1)))

end Json

/-! ## Documents -/

/-- A document as collections have it: its data in the order of keys, no key twice, and every
value a text, a truth value, null or a whole number of 64 bits. -/
structure Document.Flat (d : Document) : Prop where
  ordered : d.metadata.Pairwise (·.1 < ·.1)
  scalar : ∀ m ∈ d.metadata, m.2.Fits 0

/-- A member behind all others comes last. -/
lemma insertMember_of_lt {α : Type} {ms : List (String × α)} {key : String}
    (h : ∀ m ∈ ms, m.1 < key) (v : α) : insertMember key v ms = ms ++ [(key, v)] := by
  induction ms with
  | nil => rfl
  | cons m ms ih =>
    have hm := h m List.mem_cons_self
    have hne : key ≠ m.1 := by
      rintro rfl
      exact String.lt_irrefl _ hm
    rw [insertMember, if_neg (String.lt_asymm hm), if_neg hne,
      ih fun m hm => h m (List.mem_cons_of_mem _ hm)]
    rfl

/-- A value that is neither array nor object may stand at any depth. -/
lemma Json.Value.Fits.of_zero {v : Value} (h : v.Fits 0) (depth : Nat) : v.Fits depth := by
  cases h with
  | null => exact .null depth
  | bool _ b => exact .bool depth b
  | natural _ h => exact .natural depth h
  | negative _ hpos h => exact .negative depth hpos h
  | string _ s => exact .string depth s

/-- A value that is neither array nor object has no members to put in order. -/
lemma Json.Value.Fits.sorted_of_zero {v : Value} (h : v.Fits 0) : v.sorted = v := by
  cases h <;> rw [Value.sorted] <;> nofun

section Metadata

variable (depth : Nat) (l : Layout) (level : Nat)

/-- Data in the order of keys is read in this order. -/
lemma stepsRead_insertMember (taken : List (String × Value)) {ms : List (String × Value)}
    (hordered : (taken ++ ms).Pairwise (·.1 < ·.1)) (hscalar : ∀ m ∈ ms, m.2.Fits 0) :
    StepsRead (fun ms key c => (behindColon (value depth) c).map fun r =>
      (insertMember key r.1.sorted ms, r.2)) taken (memberTexts l level ms) (taken ++ ms) := by
  induction ms generalizing taken with
  | nil =>
    rw [List.append_nil]
    exact .nil taken
  | cons m ms ih =>
    have hm := hscalar m List.mem_cons_self
    have hlast : ∀ m' ∈ taken, m'.1 < m.1 := fun m' hm' =>
      (List.pairwise_append.mp hordered).2.2 m' hm' m List.mem_cons_self
    have hrest := ih (taken ++ [m]) (by simpa using hordered)
      fun m hm => hscalar m (List.mem_cons_of_mem _ hm)
    rw [List.append_assoc, List.singleton_append] at hrest
    refine .cons (fun before rest hdelimits => ?_) hrest
    obtain ⟨before', hread⟩ :=
      behindColon_reads l ((hm.of_zero depth).reads l level) before hdelimits
    refine ⟨before', ?_⟩
    simp only [hread, Except.map, hm.sorted_of_zero, insertMember_of_lt hlast]

/-- Written data is read as the data. -/
lemma reads_readMetadata {ms : List (String × Value)} (hordered : ms.Pairwise (·.1 < ·.1))
    (hscalar : ∀ m ∈ ms, m.2.Fits 0) :
    Reads (readMetadata depth) ((Value.object ms).write l level) ms := by
  rw [Value.write, writeMembers_eq]
  refine .of_beginValue (by decide) (by decide) fun before rest _ => ?_
  obtain ⟨before', hread⟩ := objectWith_inLayout l (level + 1)
    (stepsRead_insertMember (depth - 1) l (level + 1) [] hordered hscalar) .ok rfl
    (l.tail_blank level ms.isEmpty) before rest
  refine ⟨before', ?_⟩
  rw [if_pos rfl, List.append_assoc, List.append_assoc]
  exact hread

/-- Where a text is expected, a text is read. -/
lemma reads_text (s : String) : Reads Json.text (stringText s) s := by
  refine .of_beginValue (by decide) (by decide) fun before rest _ => ?_
  obtain ⟨before', hread⟩ := string_stringText true s before rest
  refine ⟨before', ?_⟩
  rw [if_pos rfl]
  simpa [stringText] using hread

end Metadata

namespace Document.Flat

variable {d : Document} (h : d.Flat)

include h

/-- The fields of a document are read one after the other. -/
lemma stepsRead (depth : Nat) (l : Layout) (level : Nat) :
    StepsRead (DocumentFields.take depth) {}
      (memberTexts l level [("id", .string d.id), ("document", .string d.text),
        ("metadata", .object d.metadata)])
      ⟨some d.id, some d.text, some d.metadata⟩ := by
  have hid : ∀ before rest, Delimits rest → ∃ before', DocumentFields.take depth {} "id"
      ⟨before, ':' :: (l.pad ++ stringText d.id) ++ rest⟩ =
        .ok (⟨some d.id, none, none⟩, ⟨before', rest⟩) := by
    intro before rest hrest
    obtain ⟨before', hread⟩ := behindColon_reads l (reads_text d.id) before hrest
    refine ⟨before', ?_⟩
    simp only [DocumentFields.take, hread]
    rfl
  have htext : ∀ before rest, Delimits rest → ∃ before', DocumentFields.take depth
      ⟨some d.id, none, none⟩ "document" ⟨before, ':' :: (l.pad ++ stringText d.text) ++ rest⟩ =
        .ok (⟨some d.id, some d.text, none⟩, ⟨before', rest⟩) := by
    intro before rest hrest
    obtain ⟨before', hread⟩ := behindColon_reads l (reads_text d.text) before hrest
    refine ⟨before', ?_⟩
    simp only [DocumentFields.take, hread]
    rfl
  refine .cons hid (.cons htext (.cons (fun before rest hrest => ?_) (.nil _)))
  obtain ⟨before', hread⟩ := behindColon_reads l
    (reads_readMetadata depth l level h.ordered h.scalar) before hrest
  refine ⟨before', ?_⟩
  simp only [DocumentFields.take, hread]
  rfl

/-- **A written document is read as the document**, in every layout. -/
lemma reads (l : Layout) (level : Nat) : Reads Document.read (d.toValue.write l level) d := by
  rw [Document.toValue, Value.write, writeMembers_eq]
  refine .of_beginValue (by decide) (by decide) fun before rest _ => ?_
  obtain ⟨before', hread⟩ := objectWith_inLayout l (level + 1)
    (h.stepsRead (maxDepth - 1) l (level + 1)) DocumentFields.finish rfl
    (l.tail_blank level false) before rest
  refine ⟨before', ?_⟩
  rw [if_pos rfl, List.append_assoc, List.append_assoc]
  exact hread

/-- A document is read back from its line. -/
lemma readAll_line : Json.readAll Document.read d.line = .ok d := (h.reads .compact 0).readAll

/-- **The text of a document has no control character.** -/
lemma noControls : Text.NoControls d.line.toList := by
  have hfits : d.toValue.Fits 2 := by
    refine .object fun m hm => ?_
    simp only [List.mem_cons, List.not_mem_nil, or_false] at hm
    rcases hm with rfl | rfl | rfl
    · exact .string _ _
    · exact .string _ _
    · exact .object h.scalar
  rw [Document.line, Value.text, String.toList_ofList]
  exact hfits.noControls 0

end Document.Flat

/-- The text of a document is not blank. -/
lemma Document.trim_line_ne (d : Document) : (Text.trim d.line).isEmpty = false := by
  have hbrace : ['\x7b'] <:+: d.line.toList := by
    rw [Document.line, Value.text, String.toList_ofList]
    exact (List.prefix_append ['\x7b'] _).isInfix
  have htrim := (Text.isInfix_trimChars hbrace).length_le
  rw [Bool.eq_false_iff, ne_eq, String.isEmpty_iff]
  intro hempty
  have hnil : Text.trimChars d.line.toList = [] := by
    simpa [Text.trim] using congrArg String.toList hempty
  rw [hnil] at htrim
  exact absurd htrim (by decide)

/-! ## Collection files -/

/-- The text of a collection file: documents, one to a line. -/
def linesOf (ds : List Document) : String := Text.asLines (ds.map Document.line)

/-- One more document is one more line. -/
lemma linesOf_concat (ds : List Document) (d : Document) :
    (linesOf (ds ++ [d])).toUTF8 = (linesOf ds).toUTF8 ++ d.line.toUTF8 ++ "\n".toUTF8 := by
  simp [linesOf, Text.asLines, String.toUTF8_eq_toByteArray,
    String.toByteArray_append, ByteArray.append_assoc]

namespace LineCollection

/-- Documents on lines are read one after the other. -/
lemma documentsOf_map {ds : List Document} (h : ∀ d ∈ ds, d.Flat) (number : Nat) :
    documentsOf number (ds.map (·.line.toUTF8.toList)) = .ok ds := by
  induction ds generalizing number with
  | nil => rfl
  | cons d ds ih =>
    have hrest := ih (fun d hd => h d (List.mem_cons_of_mem _ hd)) (number + 1)
    simp only [List.map_cons, documentsOf, Text.lineText?_toUTF8, d.trim_line_ne,
      (h d List.mem_cons_self).readAll_line, hrest]
    rfl

/-- Documents are written one to a line. -/
lemma byteLines_linesOf {ds : List Document} (h : ∀ d ∈ ds, d.Flat) :
    Text.byteLines (linesOf ds).toUTF8 = ds.map (·.line.toUTF8.toList) := by
  have hlines : ∀ line ∈ ds.map Document.line, Text.NoControls line.toList := by
    intro line hline
    obtain ⟨d, hd, rfl⟩ := List.mem_map.mp hline
    exact (h d hd).noControls
  rw [linesOf, Text.byteLines_asLines hlines, List.map_map]
  rfl

/-- **Written documents are found in the file.** -/
lemma documentsOf_linesOf {ds : List Document} (h : ∀ d ∈ ds, d.Flat) :
    documentsOf 1 (Text.byteLines (linesOf ds).toUTF8) = .ok ds := by
  rw [byteLines_linesOf h]
  exact documentsOf_map h 1

end LineCollection

end CodeCatalog
