import CodeCatalog.Proofs.Collection.Agreement
import CodeCatalog.Proofs.Files.Opening

/-!
# Adding to collection files that are there

A collection file may have been written by others: its lines may end in any way, blank lines may
stand between them, and the last one may have no end. Whatever reads as documents can be opened
and added to, but new documents go right behind the last byte. So they are found behind the old
ones exactly if the last line has an end, or nothing but blanks stand on it.

## Main definitions

* `CodeCatalog.accepted` — the documents that were added.
* `CodeCatalog.LineCollection.Appends` — an open collection file and what was added to it.

## Main results

* `CodeCatalog.LineCollection.documentsOf_append_iff` — documents on lines and on more lines.
* `CodeCatalog.LineCollection.documentsOf_content_append_iff` — when documents that are written
  behind others are found.
* `CodeCatalog.LineCollection.Appends.addAll` — what adding documents does to the file.
* `CodeCatalog.LineCollection.readDocuments_extended_iff` — adding to a collection file.
-/

namespace CodeCatalog

open Json

/-! ## Blank texts -/

namespace Text

/-- What is blank in a value is blank anywhere. -/
lemma isBlank_of_json_isBlank {x : Char} (h : Json.isBlank x) : isBlank x := by
  simp only [Json.isBlank, Bool.or_eq_true, beq_iff_eq] at h
  rcases h with ((rfl | rfl) | rfl) | rfl <;> decide

/-- The bytes of a text are blanks if its characters are. -/
lemma forall_isBlank_iff {s : String} (h : ∀ b ∈ s.toUTF8.toList, b ≠ 10) :
    (∀ x ∈ s.toList, Json.isBlank x) ↔
      ∀ b ∈ s.toUTF8.toList, b = 9 ∨ b = 13 ∨ b = 32 := by
  simp only [toList_toUTF8, List.mem_flatMap, forall_exists_index, and_imp] at h ⊢
  constructor
  · intro hblank b x hx hb
    have hx' := hblank x hx
    simp only [Json.isBlank, Bool.or_eq_true, beq_iff_eq] at hx'
    rcases hx' with ((rfl | rfl) | rfl) | rfl
    · exact Or.inr (Or.inr (List.mem_singleton.mp hb))
    · exact absurd (List.mem_singleton.mp hb) (h b _ hx hb)
    · exact Or.inl (List.mem_singleton.mp hb)
    · exact Or.inr (Or.inl (List.mem_singleton.mp hb))
  · intro hbytes x hx
    obtain ⟨b, hb⟩ := List.exists_mem_of_ne_nil _ (String.utf8EncodeChar_ne_nil (c := x))
    have hnumber := toNat_eq_of_mem_utf8EncodeChar hb
    rcases hbytes b x hx hb with rfl | rfl | rfl
    · obtain rfl : x = '\t' := Char.toNat_inj.mp (hnumber (by decide))
      decide
    · obtain rfl : x = '\r' := Char.toNat_inj.mp (hnumber (by decide))
      decide
    · obtain rfl : x = ' ' := Char.toNat_inj.mp (hnumber (by decide))
      decide

end Text

/-! ## Documents behind blanks -/

/-- A written document is read behind blanks. -/
lemma Document.Flat.readAll_append_line {d : Document} (h : d.Flat) {s : String}
    (hs : ∀ x ∈ s.toList, Json.isBlank x) : Json.readAll Document.read (s ++ d.line) = .ok d := by
  have htext : s ++ d.line = String.ofList (s.toList ++ d.toValue.write .compact 0) := by
    rw [String.ofList_append, String.ofList_toList]
    rfl
  rw [htext]
  exact (h.reads .compact 0).readAll_append hs

/-- The text of a document has characters other than blanks. -/
lemma Document.not_forall_isBlank_line (d : Document) :
    ¬ ∀ x ∈ d.line.toList, Text.isBlank x := by
  rw [← Text.trim_isEmpty_iff, d.trim_line_ne]
  exact Bool.false_ne_true

/-- The text of a document has bytes. -/
lemma Document.bytes_line_ne_nil (d : Document) : d.line.toUTF8.toList ≠ [] := by
  intro hnil
  refine d.not_forall_isBlank_line ?_
  rw [Text.toList_toUTF8_eq_nil_iff.mp hnil]
  exact List.forall_mem_nil _

/-- Refusing is no success. -/
lemma Json.refuse_ne_ok {α : Type} {expected : String} {c : Cursor} {r : α × Cursor} :
    refuse expected c ≠ .ok r := by
  intro h
  unfold refuse at h
  split at h
  · cases h
  · split_ifs at h
    · cases h
    · cases h
    · split at h <;> cases h

/-- Behind blanks, the text of a document begins with a brace or a bracket. -/
lemma Document.begins_of_readAll {s : String} {d : Document} {blanks rest : List Char} {x : Char}
    (h : Json.readAll Document.read s = .ok d) (hs : s.toList = blanks ++ x :: rest)
    (hblanks : ∀ y ∈ blanks, Json.isBlank y) (hx : ¬ Json.isBlank x) : x = '\x7b' ∨ x = '[' := by
  by_contra hbegin
  rw [not_or] at hbegin
  have hread : Document.read (Cursor.ofText s) =
      refuse "struct IndexDocument" ⟨blanks.reverse ++ [], x :: rest⟩ := by
    rw [Cursor.ofText, hs, Document.read]
    simp only [beginValue, Cursor.skipBlanks_append hblanks hx, hbegin, if_false]
  rw [Json.readAll, hread] at h
  split at h
  · cases h
  · rename_i hok
    exact refuse_ne_ok hok

/-- Of the blanks, only those of its format may stand before a document. -/
lemma Document.forall_isBlank_of_readAll {s t : String} {d : Document}
    (hs : ∀ x ∈ s.toList, Text.isBlank x) (h : Json.readAll Document.read (s ++ t) = .ok d) :
    ∀ x ∈ s.toList, Json.isBlank x := by
  by_contra hblank
  cases hdrop : s.toList.dropWhile Json.isBlank with
  | nil => exact hblank (List.dropWhile_eq_nil_iff.mp hdrop)
  | cons x rest =>
    have hx : ¬ Json.isBlank x := by
      have hnot := List.head?_dropWhile_not Json.isBlank s.toList
      rw [hdrop] at hnot
      simpa using hnot
    have hxs : Text.isBlank x = true :=
      hs x ((List.dropWhile_sublist Json.isBlank).subset (hdrop ▸ List.mem_cons_self))
    have hsplit : (s ++ t).toList =
        s.toList.takeWhile Json.isBlank ++ x :: (rest ++ t.toList) := by
      rw [String.toList_append, ← List.cons_append, ← hdrop, ← List.append_assoc,
        List.takeWhile_append_dropWhile]
    rcases begins_of_readAll h hsplit (fun y hy => List.mem_takeWhile_imp hy) hx with rfl | rfl
    · exact absurd hxs (by decide)
    · exact absurd hxs (by decide)

namespace LineCollection

/-! ## Documents on lines -/

/-- What is read from a first line and from the lines behind it. -/
lemma documentsOf_cons_iff {number : Nat} {line : List UInt8} {lines : List (List UInt8)}
    {ds : List Document} : documentsOf number (line :: lines) = .ok ds ↔
      ∃ text, Text.lineText? line = some text ∧
        ((Text.trim text).isEmpty = true ∧ documentsOf (number + 1) lines = .ok ds ∨
          (Text.trim text).isEmpty = false ∧ ∃ d rest, Json.readAll Document.read text = .ok d ∧
            documentsOf (number + 1) lines = .ok rest ∧ ds = d :: rest) := by
  rw [documentsOf]
  cases Text.lineText? line with
  | none => simp
  | some text =>
    simp only [Option.some.injEq, exists_eq_left']
    generalize (Text.trim text).isEmpty = blank
    generalize Json.readAll Document.read text = read
    generalize documentsOf (number + 1) lines = more
    cases blank with
    | true => simp
    | false =>
      cases read with
      | error f => simp
      | ok d => cases more <;> simp [Except.map, eq_comm]

/-- **Documents on lines and on more lines.** -/
lemma documentsOf_append_iff {number : Nat} {front back : List (List UInt8)}
    {ds : List Document} : documentsOf number (front ++ back) = .ok ds ↔
      ∃ ds₁ ds₂, documentsOf number front = .ok ds₁ ∧
        documentsOf (number + front.length) back = .ok ds₂ ∧ ds = ds₁ ++ ds₂ := by
  induction front generalizing number ds with
  | nil => simp [documentsOf]
  | cons line front ih =>
    have hnumber : number + (line :: front).length = number + 1 + front.length := by
      rw [List.length_cons]
      omega
    rw [List.cons_append, documentsOf_cons_iff, hnumber]
    constructor
    · rintro ⟨text, htext, ⟨hblank, h⟩ | ⟨hfull, d, rest, hd, hrest, rfl⟩⟩
      · obtain ⟨ds₁, ds₂, h₁, h₂, rfl⟩ := ih.mp h
        exact ⟨ds₁, ds₂, documentsOf_cons_iff.mpr ⟨text, htext, Or.inl ⟨hblank, h₁⟩⟩, h₂, rfl⟩
      · obtain ⟨ds₁, ds₂, h₁, h₂, rfl⟩ := ih.mp hrest
        exact ⟨d :: ds₁, ds₂, documentsOf_cons_iff.mpr
          ⟨text, htext, Or.inr ⟨hfull, d, ds₁, hd, h₁, rfl⟩⟩, h₂, rfl⟩
    · rintro ⟨ds₁, ds₂, h₁, h₂, rfl⟩
      obtain ⟨text, htext, ⟨hblank, h₁⟩ | ⟨hfull, d, rest, hd, hrest, rfl⟩⟩ :=
        documentsOf_cons_iff.mp h₁
      · exact ⟨text, htext, Or.inl ⟨hblank, ih.mpr ⟨ds₁, ds₂, h₁, h₂, rfl⟩⟩⟩
      · exact ⟨text, htext, Or.inr ⟨hfull, d, rest ++ ds₂, hd,
          ih.mpr ⟨rest, ds₂, hrest, h₂, rfl⟩, rfl⟩⟩

/-- A line has at most one document. -/
lemma length_le_of_documentsOf {number : Nat} {lines : List (List UInt8)} {ds : List Document}
    (h : documentsOf number lines = .ok ds) : ds.length ≤ lines.length := by
  induction lines generalizing number ds with
  | nil =>
    cases h
    exact Nat.le_refl 0
  | cons line lines ih =>
    obtain ⟨text, -, ⟨-, h⟩ | ⟨-, d, rest, -, hrest, rfl⟩⟩ := documentsOf_cons_iff.mp h
    · exact Nat.le_succ_of_le (ih h)
    · exact Nat.succ_le_succ (ih hrest)

/-! ## Documents behind a content -/

/-- No documents, no lines. -/
lemma append_linesOf_nil (content : ByteArray) : content ++ (linesOf []).toUTF8 = content :=
  ByteArray.append_empty

/-- What is on the lines of documents that are written behind other bytes. -/
lemma byteLinesFrom_append_linesOf {front : List UInt8} (hfront : ∀ b ∈ front, b ≠ 10)
    {d : Document} {ds : List Document} (hd : d.Flat) (hds : ∀ d ∈ ds, d.Flat) :
    Text.byteLinesFrom [] (front ++ (linesOf (d :: ds)).toUTF8.toList) =
      (front ++ d.line.toUTF8.toList) :: ds.map (·.line.toUTF8.toList) := by
  have hbytes := hd.noControls.bytes
  have hline : ∀ b ∈ front ++ d.line.toUTF8.toList, b ≠ 10 :=
    List.forall_mem_append.mpr ⟨hfront, fun b hb => (hbytes b hb).1⟩
  have hend : (front ++ d.line.toUTF8.toList).getLast? ≠ some 13 := by
    rw [List.getLast?_append_of_ne_nil _ d.bytes_line_ne_nil]
    exact fun hlast => (hbytes 13 (List.mem_of_getLast? hlast)).2 rfl
  have hlines : Text.byteLinesFrom [] (linesOf ds).toUTF8.toList =
      ds.map (·.line.toUTF8.toList) := byteLines_linesOf hds
  rw [linesOf, List.map_cons, Text.toList_asLines_cons, ← List.append_assoc,
    Text.byteLinesFrom_nil_line hline hend]
  rw [← linesOf, hlines]

/-- What stands behind the last line feed of a file is a text; no document is read from it if it is
blank. -/
lemma exists_text_of_openLine {number : Nat} {line : List UInt8} {ds : List Document}
    (hline : ∀ b ∈ line, b ≠ 10)
    (h : documentsOf number (Text.byteLinesFrom [] line) = .ok ds) :
    ∃ text : String, line = text.toUTF8.toList ∧
      (ds = [] ↔ ∀ x ∈ text.toList, Text.isBlank x) := by
  by_cases hne : line = []
  · subst hne
    cases h
    exact ⟨"", (Text.toList_toUTF8_eq_nil_iff.mpr rfl).symm,
      iff_of_true rfl (List.forall_mem_nil _)⟩
  · rw [Text.byteLinesFrom_nil_of_forall_ne hline hne, documentsOf_cons_iff] at h
    obtain ⟨text, htext, h⟩ := h
    refine ⟨text, Text.eq_of_lineText?_eq_some htext, ?_⟩
    rw [← Text.trim_isEmpty_iff]
    rcases h with ⟨hblank, h⟩ | ⟨hfull, d, rest, -, -, rfl⟩
    · cases h
      exact iff_of_true rfl hblank
    · exact iff_of_false (List.cons_ne_nil d rest) (Bool.eq_false_iff.mp hfull)

/-- When a document is found on a line behind a text. -/
lemma documentsOf_line_iff (number : Nat) {text : String} {d : Document} {old ds : List Document}
    (hd : d.Flat) (hds : ∀ d ∈ ds, d.Flat)
    (hold : old = [] ↔ ∀ x ∈ text.toList, Text.isBlank x) :
    documentsOf number ((text.toUTF8.toList ++ d.line.toUTF8.toList) ::
        ds.map (·.line.toUTF8.toList)) = .ok (old ++ d :: ds) ↔
      ∀ x ∈ text.toList, Json.isBlank x := by
  have htext : Text.lineText? (text.toUTF8.toList ++ d.line.toUTF8.toList) =
      some (text ++ d.line) := by
    rw [← Text.toList_toUTF8_append, Text.lineText?_toUTF8]
  have hfull : (Text.trim (text ++ d.line)).isEmpty = false := by
    rw [Bool.eq_false_iff, ne_eq, Text.trim_isEmpty_iff, String.toList_append,
      List.forall_mem_append]
    exact fun hblank => d.not_forall_isBlank_line hblank.2
  constructor
  · intro h
    -- there is at most one document on each line, so none stood there before
    have hlength := length_le_of_documentsOf h
    have hnil : old = [] := by
      rw [List.length_append, List.length_cons, List.length_cons, List.length_map] at hlength
      exact List.eq_nil_of_length_eq_zero (by omega)
    obtain ⟨text', htext', h⟩ := documentsOf_cons_iff.mp h
    obtain rfl : text ++ d.line = text' := Option.some.inj (htext.symm.trans htext')
    rcases h with ⟨hblank, -⟩ | ⟨-, d', -, hread, -⟩
    · exact absurd hblank (Bool.eq_false_iff.mp hfull)
    · exact Document.forall_isBlank_of_readAll (hold.mp hnil) hread
  · intro h
    rw [hold.mpr fun x hx => Text.isBlank_of_json_isBlank (h x hx), documentsOf_cons_iff]
    exact ⟨text ++ d.line, htext, Or.inr ⟨hfull, d, ds, hd.readAll_append_line h,
      documentsOf_map hds (number + 1), rfl⟩⟩

/-- **When documents that are written behind others are found.**

**Proof sketch.** Up to the last line feed nothing changes. If nothing but blanks stand behind it,
the first new document is read behind them. Otherwise either a document stands there, and then
there are fewer lines than documents, or a blank that the format does not know. -/
lemma documentsOf_content_append_iff {content : ByteArray} {ds new : List Document}
    (h : documentsOf 1 (Text.byteLines content) = .ok ds) (hnew : ∀ d ∈ new, d.Flat) :
    documentsOf 1 (Text.byteLines (content ++ (linesOf new).toUTF8)) = .ok (ds ++ new) ↔
      new = [] ∨ ∀ b ∈ Text.openLine content.toList, b = 9 ∨ b = 13 ∨ b = 32 := by
  cases new with
  | nil =>
    rw [append_linesOf_nil, List.append_nil]
    exact iff_of_true h (Or.inl rfl)
  | cons d new =>
    obtain ⟨hd, hnew⟩ := List.forall_mem_cons.mp hnew
    obtain ⟨lines, hlines⟩ := Text.exists_byteLinesFrom_append content.toList
    have hopen := Text.forall_mem_openLine content.toList
    have hcontent := hlines []
    rw [List.append_nil, List.append_nil] at hcontent
    rw [Text.byteLines, hcontent, documentsOf_append_iff] at h
    obtain ⟨ds₁, ds₂, h₁, h₂, rfl⟩ := h
    obtain ⟨text, htext, hold⟩ := exists_text_of_openLine hopen h₂
    rw [Text.byteLines, Text.toList_append, hlines, byteLinesFrom_append_linesOf hopen hd hnew,
      documentsOf_append_iff, htext]
    rw [htext] at hopen
    rw [← Text.forall_isBlank_iff hopen,
      ← documentsOf_line_iff (1 + lines.length) hd hnew hold]
    constructor
    · rintro ⟨ds₁', ds₂', h₁', h₂', heq⟩
      obtain rfl : ds₁ = ds₁' := Except.ok.inj (h₁.symm.trans h₁')
      rw [List.append_assoc] at heq
      obtain rfl := List.append_cancel_left heq
      exact Or.inr h₂'
    · intro h₂'
      exact ⟨ds₁, _, h₁, h₂'.resolve_left (List.cons_ne_nil d new), List.append_assoc _ _ _⟩

end LineCollection

/-! ## Adding documents -/

/-- The documents that were added. -/
def accepted (additions : List Addition) : List Document :=
  (additions.filter fun r => r.2.toBool).map (·.1)

/-- Of no additions none is accepted. -/
@[simp] lemma accepted_nil : accepted [] = [] := rfl

/-- An addition that succeeds is accepted. -/
@[simp] lemma accepted_cons_ok (d : Document) (additions : List Addition) :
    accepted ((d, .ok ()) :: additions) = d :: accepted additions := rfl

/-- An addition that fails is not accepted. -/
@[simp] lemma accepted_cons_error (d : Document) (e : SinkError) (additions : List Addition) :
    accepted ((d, .error e) :: additions) = accepted additions := rfl

namespace LineCollection

/-- An open collection file to which documents were added: what it had before, what it had
reserved ids for, and the documents. -/
structure Appends (fs : FileSystem) (c : LineCollection) (content : ByteArray)
    (ids : List String) (new : List Document) : Prop where
  holds : c.file.Holds fs c.path (content ++ (linesOf new).toUTF8)
  mem_ids : ∀ id, id ∈ c.ids ↔ id ∈ ids ∨ id ∈ new.map (·.id)

/-- The documents of a file are those on its lines. -/
lemma readDocuments_eq_ok_iff {fs : FileSystem} {path : String} {bytes : ByteArray}
    (h : fs.read path = .ok bytes) {ds : List Document} :
    readDocuments fs path = .ok ds ↔ documentsOf 1 (Text.byteLines bytes) = .ok ds := by
  simp only [readDocuments, h]
  cases documentsOf 1 (Text.byteLines bytes) <;> simp

/-- **A collection file that reads as documents can be opened.** -/
lemma appends_of_openExisting {fs : FileSystem} {path : String} {content : ByteArray}
    {ds : List Document} (hfile : fs.entry path = .ok (.file content))
    (hread : readDocuments fs path = .ok ds) :
    ∃ c, openExisting fs path = (fs, .ok c) ∧ c.path = path ∧
      c.Appends fs content (ds.map (·.id)) [] := by
  obtain ⟨place, hat, hparents⟩ := FileSystem.fileAt_of_entry hfile
  have hids : existingIds fs path = .ok (ds.map (·.id)).eraseDups := by
    simp only [existingIds, hat.exists?, if_true, hread, Except.map]
  refine ⟨⟨path, ⟨{ place, appending := true }, .empty⟩, (ds.map (·.id)).eraseDups⟩, ?_, rfl,
    ⟨content, hat, Or.inl rfl, ?_⟩, fun id => ?_⟩
  · simp only [openExisting, hids, FileSystem.createParents_of_hasParents hparents, hat.extend]
  · rw [append_linesOf_nil, ByteArray.append_empty]
  · simp [List.mem_eraseDups]

section Appends

variable {fs : FileSystem} {c : LineCollection} {content : ByteArray} {ids : List String}
  {new : List Document}

/-- A document is added behind the others, or refused because its id is taken. -/
lemma Appends.add (h : c.Appends fs content ids new) (d : Document) :
    (∃ fs' c', LineCollection.sink.add (fs, c) d = ((fs', c'), .ok ()) ∧ c'.path = c.path ∧
      c'.Appends fs' content ids (new ++ [d])) ∨
    LineCollection.sink.add (fs, c) d = ((fs, c), .error (idExists d.id)) ∧ d.id ∈ c.ids := by
  by_cases htaken : d.id ∈ c.ids
  · right
    refine ⟨?_, htaken⟩
    simp only [sink, LineCollection.add, List.contains_iff_mem.mpr htaken, if_true]
  · left
    obtain ⟨fs', file, hadd, -, hholds⟩ := add_of_holds h.holds (by simpa using htaken)
    refine ⟨fs', ⟨c.path, file, c.ids ++ [d.id]⟩, ?_, rfl, ?_, fun id => ?_⟩
    · simp only [sink, hadd]
    · rwa [linesOf_concat, ← ByteArray.append_assoc, ← ByteArray.append_assoc]
    · rw [List.mem_append, h.mem_ids, or_assoc]
      simp

/-- **Adding documents one after the other** puts those that are accepted behind the others. -/
lemma Appends.addAll (h : c.Appends fs content ids new) (more : List Document) :
    ∃ s additions, CodeCatalog.addAll LineCollection.sink (fs, c) more = (s, additions) ∧
      s.2.path = c.path ∧ s.2.Appends s.1 content ids (new ++ accepted additions) ∧
      (accepted additions).Sublist more ∧ ∀ d ∈ more, d.id ∈ s.2.ids := by
  induction more generalizing fs c new with
  | nil =>
    refine ⟨(fs, c), [], rfl, rfl, ?_, .slnil, List.forall_mem_nil _⟩
    rwa [accepted_nil, List.append_nil]
  | cons d more ih =>
    rcases h.add d with ⟨fs', c', hadd, hpath, happends⟩ | ⟨hadd, htaken⟩
    · obtain ⟨s, additions, hall, hpath', happends', hsublist, hids⟩ := ih happends
      refine ⟨s, _, addAll_cons hadd hall, hpath'.trans hpath, ?_⟩
      rw [accepted_cons_ok, ← List.singleton_append, ← List.append_assoc]
      refine ⟨happends', hsublist.cons_cons d, List.forall_mem_cons.mpr ⟨?_, hids⟩⟩
      rw [happends'.mem_ids]
      simp
    · obtain ⟨s, additions, hall, hpath, happends, hsublist, hids⟩ := ih h
      refine ⟨s, _, addAll_cons hadd hall, hpath, ?_⟩
      rw [accepted_cons_error]
      refine ⟨happends, hsublist.cons d, List.forall_mem_cons.mpr ⟨?_, hids⟩⟩
      -- the id was taken before, and ids stay taken
      rw [happends.mem_ids, List.map_append, List.mem_append, ← or_assoc, ← h.mem_ids]
      exact Or.inl htaken

end Appends

/-- **Adding to a collection file that is there.** Whatever a file has that reads as documents, it
can be opened, documents can be added to it one after the other, and flushing succeeds; a document
is refused only if its id is taken. The file then reads as the old documents and behind them those
that were accepted exactly if there are none of these, or if nothing but spaces, tabs and carriage
returns stand behind the last line feed of the old content. -/
theorem readDocuments_extended_iff {fs : FileSystem} {path : String} {content : ByteArray}
    {ds more : List Document} (hfile : fs.entry path = .ok (.file content))
    (hread : readDocuments fs path = .ok ds) (hflat : ∀ d ∈ more, d.Flat) :
    ∃ c s additions s', openExisting fs path = (fs, .ok c) ∧
      addAll LineCollection.sink (fs, c) more = (s, additions) ∧
      LineCollection.sink.flush s = (s', .ok ()) ∧
      (accepted additions).Sublist more ∧
      (∀ d ∈ more, d.id ∈ (ds ++ accepted additions).map (·.id)) ∧
      (readDocuments s'.1 path = .ok (ds ++ accepted additions) ↔
        accepted additions = [] ∨
          ∀ b ∈ Text.openLine content.toList, b = 9 ∨ b = 13 ∨ b = 32) := by
  obtain ⟨c, hopen, rfl, happends⟩ := appends_of_openExisting hfile hread
  obtain ⟨s, additions, hall, hpath, happends', hsublist, hids⟩ := happends.addAll more
  obtain ⟨fs', file, hflush, -, hholds, hpending⟩ := happends'.holds.flush
  rw [hpath, List.nil_append] at hholds
  rw [List.nil_append] at happends'
  refine ⟨c, s, additions, (fs', { s.2 with file }), hopen, hall, ?_, hsublist, fun d hd => ?_, ?_⟩
  · simp only [LineCollection.sink, LineCollection.flush, hflush]
  · rw [List.map_append, List.mem_append, ← happends'.mem_ids]
    exact hids d hd
  · have hcontent : fs.read c.path = .ok content := by simp only [FileSystem.read, hfile]
    rw [readDocuments_eq_ok_iff hcontent] at hread
    rw [readDocuments_eq_ok_iff (hholds.fileAt hpending).read]
    exact documentsOf_content_append_iff hread fun d hd => hflat d (hsublist.subset hd)

/-- A document without data. -/
def bareDocument (id text : String) : Document := ⟨id, text, []⟩

/-- A document without data is flat. -/
lemma flat_bareDocument (id text : String) : (bareDocument id text).Flat :=
  ⟨.nil, List.forall_mem_nil _⟩

/-- A collection file with one document, on a line without an end. -/
def unfinishedFile : FileSystem :=
  ⟨.dir [("collection.jsonl", .file (bareDocument "0" "x").line.toUTF8)], []⟩

/-- The collection file has one line, which is not finished. -/
lemma entry_unfinishedFile : unfinishedFile.entry "collection.jsonl" =
    .ok (.file (bareDocument "0" "x").line.toUTF8) := by
  refine FileSystem.entry_eq_ok_iff.mpr ⟨["collection.jsonl"], ?_, rfl⟩
  rw [FileSystem.spot_eq_ok_iff]
  refine ⟨by decide, .enter rfl (by constructor <;> decide) rfl nofun (.done _ _)⟩

/-- **A line without an end is spoilt by what is added.** The file reads as its document; another
one is accepted and flushed, and then the file does not read as both. -/
theorem readDocuments_unfinishedFile :
    readDocuments unfinishedFile "collection.jsonl" = .ok [bareDocument "0" "x"] ∧
    ∃ c s additions s',
      openExisting unfinishedFile "collection.jsonl" = (unfinishedFile, .ok c) ∧
      addAll LineCollection.sink (unfinishedFile, c) [bareDocument "1" "y"] = (s, additions) ∧
      LineCollection.sink.flush s = (s', .ok ()) ∧
      accepted additions = [bareDocument "1" "y"] ∧
      readDocuments s'.1 "collection.jsonl" ≠
        .ok [bareDocument "0" "x", bareDocument "1" "y"] := by
  have hbytes : ∀ b ∈ (bareDocument "0" "x").line.toUTF8.toList, b ≠ 10 := fun b hb =>
    ((flat_bareDocument "0" "x").noControls.bytes b hb).1
  have hread : readDocuments unfinishedFile "collection.jsonl" = .ok [bareDocument "0" "x"] := by
    have hcontent : unfinishedFile.read "collection.jsonl" =
        .ok (bareDocument "0" "x").line.toUTF8 := by
      simp only [FileSystem.read, entry_unfinishedFile]
    rw [readDocuments_eq_ok_iff hcontent, Text.byteLines,
      Text.byteLinesFrom_nil_of_forall_ne hbytes (Document.bytes_line_ne_nil _)]
    exact documentsOf_map (List.forall_mem_singleton.mpr (flat_bareDocument "0" "x")) 1
  obtain ⟨c, s, additions, s', hopen, hall, hflush, hsublist, hids, hiff⟩ :=
    readDocuments_extended_iff entry_unfinishedFile hread
      (List.forall_mem_singleton.mpr (flat_bareDocument "1" "y"))
  have haccepted : accepted additions = [bareDocument "1" "y"] := by
    refine (List.sublist_singleton.mp hsublist).resolve_left fun hnone => ?_
    have hid := hids _ List.mem_cons_self
    rw [hnone] at hid
    exact absurd hid (by decide)
  rw [haccepted] at hiff
  refine ⟨hread, c, s, additions, s', hopen, hall, hflush, haccepted, fun hread' => ?_⟩
  rcases hiff.mp hread' with hnone | hblank
  · cases hnone
  · have hopen : Text.openLine (bareDocument "0" "x").line.toUTF8.toList =
        (bareDocument "0" "x").line.toUTF8.toList :=
      List.rtakeWhile_eq_self_iff.mpr fun b hb => bne_iff_ne.mpr (hbytes b hb)
    rw [hopen, ← Text.forall_isBlank_iff hbytes] at hblank
    exact Document.not_forall_isBlank_line _
      fun x hx => Text.isBlank_of_json_isBlank (hblank x hx)

end LineCollection

end CodeCatalog
