import CodeCatalog.Proofs.Text.Lines

/-!
# Lines and rows

A text is cut into its lines. The row of a character is the number of line feeds before it, as in
the places of a syntax tree, and a line has exactly the characters of its row. A range of lines,
whatever its bounds are, is the stretch of the text between two rows, trimmed.

## Main definitions

* `CodeCatalog.Text.rowsBetween` — the characters of rows.
* `CodeCatalog.Text.IsCut` — a text and its lines.
* `CodeCatalog.Text.slice?` — the part of a list between two places inside it.

## Main results

* `CodeCatalog.Text.lines_induction` — induction over the lines of a text.
* `CodeCatalog.Text.rowsBetween_append` — the rows of two texts, one behind the other.
* `CodeCatalog.Text.flatten_lines_eq_rowsBetween` — lines and rows are the same.
* `CodeCatalog.Text.physicalLines_sliceLines` — the lines of a text, and ranges of them.
-/

namespace CodeCatalog.Text

/-! ## Texts line by line -/

/-- Induction over the lines of a text, the last of which may have no line feed. -/
@[elab_as_elim]
lemma lines_induction {P : List Char → Prop} (nil : P [])
    (last : ∀ line, line ≠ [] → '\n' ∉ line → P line)
    (line : ∀ line rest, '\n' ∉ line → P rest → P (line ++ '\n' :: rest)) (xs : List Char) :
    P xs := by
  induction hsize : xs.length using Nat.strong_induction_on generalizing xs with
  | _ size ih =>
    by_cases hfeed : '\n' ∈ xs
    · obtain ⟨front, rest, rfl, hfront⟩ := List.eq_append_cons_of_mem hfeed
      exact line front rest hfront (ih rest.length (by simp [← hsize]; omega) rest rfl)
    · by_cases hnil : xs = []
      · rwa [hnil]
      · exact last xs hnil hfeed

/-- A text without a line feed is one line. -/
lemma linesFrom_of_not_mem (part : List Char) {line : List Char} (hne : part ≠ [] ∨ line ≠ [])
    (hline : '\n' ∉ line) : linesFrom part line = [part.reverse ++ line] := by
  induction line generalizing part with
  | nil =>
    have hpart : part ≠ [] := hne.resolve_right fun h => h rfl
    simp [linesFrom, hpart]
  | cons x line ih =>
    obtain ⟨hx, hrest⟩ := not_or.mp (mt List.mem_cons.mpr hline)
    rw [linesFrom, if_neg (Ne.symm hx), ih (x :: part) (Or.inl (List.cons_ne_nil _ _)) hrest]
    simp

/-- The lines of a text are the text. -/
lemma flatten_linesFrom (xs : List Char) : (linesFrom [] xs).flatten = xs := by
  induction xs using lines_induction with
  | nil => rfl
  | last line hne hline => simp [linesFrom_of_not_mem [] (Or.inr hne) hline]
  | line line rest hline ih => simp [linesFrom_line [] hline, ih]

/-- Every line but the last ends in its only line feed; the last one may have none. -/
lemma whole_or_last_of_getElem?_linesFrom (xs : List Char) {i : Nat} {line : List Char}
    (h : (linesFrom [] xs)[i]? = some line) :
    (∃ front, '\n' ∉ front ∧ line = front ++ ['\n']) ∨
      i + 1 = (linesFrom [] xs).length ∧ line ≠ [] ∧ '\n' ∉ line := by
  induction xs using lines_induction generalizing i with
  | nil => cases h
  | last front hne hfront =>
    rw [linesFrom_of_not_mem [] (Or.inr hne) hfront] at h ⊢
    obtain ⟨rfl, rfl⟩ : i = 0 ∧ front = line := by simpa [List.getElem?_singleton] using h
    exact Or.inr ⟨rfl, hne, hfront⟩
  | line front rest hfront ih =>
    rw [linesFrom_line [] hfront] at h ⊢
    cases i with
    | zero => exact Or.inl ⟨front, hfront, by simpa using h.symm⟩
    | succ i => simpa using ih h

/-! ## Rows -/

/-- The row of the character that has `i` others before it: the line feeds among them. -/
def rowOf (xs : List Char) (i : Nat) : Nat := (xs.take i).count '\n'

/-- The row of a character does not depend on what comes behind it. -/
lemma rowOf_append_of_le {xs : List Char} {i : Nat} (h : i ≤ xs.length) (ys : List Char) :
    rowOf (xs ++ ys) i = rowOf xs i := by
  rw [rowOf, List.take_append_of_le_length h, rowOf]

/-- Behind a text the rows start with the line feeds of that text. -/
lemma rowOf_append_length_add (xs ys : List Char) (i : Nat) :
    rowOf (xs ++ ys) (xs.length + i) = xs.count '\n' + rowOf ys i := by
  rw [rowOf, List.take_length_add_append, List.count_append, rowOf]

/-- Characters without a line feed in front of them are in the first row. -/
lemma rowOf_eq_zero {xs : List Char} (h : '\n' ∉ xs.dropLast) {i : Nat} (hi : i < xs.length) :
    rowOf xs i = 0 := by
  have htake : xs.take i <+: xs.dropLast := by
    rw [List.dropLast_eq_take]
    exact List.take_prefix_take_left (by omega)
  exact List.count_eq_zero.mpr fun hmem => h (htake.subset hmem)

/-- The characters of a text from the row `first` on and before the row `last`. -/
def rowsBetween (first last : Nat) (xs : List Char) : List Char :=
  (xs.zipIdx.filter fun c => first ≤ rowOf xs c.2 ∧ rowOf xs c.2 < last).map (·.1)

section Rows

variable (first last : Nat)

/-- The rows of two texts, one behind the other: those of the second are counted on from the line
feeds of the first. -/
lemma rowsBetween_append (xs ys : List Char) :
    rowsBetween first last (xs ++ ys) = rowsBetween first last xs ++
      rowsBetween (first - xs.count '\n') (last - xs.count '\n') ys := by
  have hfront : ∀ c ∈ xs.zipIdx, rowOf (xs ++ ys) c.2 = rowOf xs c.2 := by
    intro c hc
    have hlt : c.2 < xs.length := by simpa using List.snd_lt_of_mem_zipIdx hc
    exact rowOf_append_of_le hlt.le ys
  have hback : ∀ i, (first ≤ rowOf (xs ++ ys) (xs.length + i) ∧
      rowOf (xs ++ ys) (xs.length + i) < last) ↔
        (first - xs.count '\n' ≤ rowOf ys i ∧ rowOf ys i < last - xs.count '\n') := by
    intro i
    rw [rowOf_append_length_add]
    omega
  rw [rowsBetween, List.zipIdx_append, Nat.zero_add, List.filter_append, List.map_append]
  congr 1
  · refine congrArg _ (List.filter_congr fun c hc => ?_)
    rw [hfront c hc]
  · rw [List.zipIdx_eq_map_add, List.filter_map, List.map_map]
    simp only [Function.comp_def, hback, rowsBetween]

/-- Characters without a line feed in front of them are in the first row. -/
lemma rowsBetween_of_not_mem {line : List Char} (h : '\n' ∉ line.dropLast) :
    rowsBetween first last line = if first = 0 ∧ 0 < last then line else [] := by
  have hrow : ∀ c ∈ line.zipIdx, rowOf line c.2 = 0 := by
    intro c hc
    exact rowOf_eq_zero h (by simpa using List.snd_lt_of_mem_zipIdx hc)
  have hsame : line.zipIdx.filter (fun c => first ≤ rowOf line c.2 ∧ rowOf line c.2 < last) =
      line.zipIdx.filter fun _ => first = 0 ∧ 0 < last := by
    refine List.filter_congr fun c hc => ?_
    rw [hrow c hc, decide_eq_decide, Nat.le_zero]
  rw [rowsBetween, hsame]
  split
  · rename_i hfirst
    simp [hfirst]
  · rename_i hother
    simp [hother]

/-- A line has its row, and in the rest of the text all rows are one further on. -/
lemma rowsBetween_line {line : List Char} (h : '\n' ∉ line) (rest : List Char) :
    rowsBetween first last (line ++ '\n' :: rest) =
      (if first = 0 ∧ 0 < last then line ++ ['\n'] else []) ++
        rowsBetween (first - 1) (last - 1) rest := by
  have hcount : (line ++ ['\n']).count '\n' = 1 := by
    rw [List.count_append, List.count_eq_zero.mpr h]
    rfl
  rw [← List.singleton_append, ← List.append_assoc, rowsBetween_append, hcount,
    rowsBetween_of_not_mem first last (by rwa [List.dropLast_concat])]

/-- **Lines and rows are the same**: a range of lines has the characters of the rows of these
numbers.

**Proof sketch.** Induction over the lines. The first one is in the range if the range begins with
the first row and is not empty; for the rest of the text both numbers are one less. -/
lemma flatten_lines_eq_rowsBetween (xs : List Char) :
    (((linesFrom [] xs).drop first).take (last - first)).flatten = rowsBetween first last xs := by
  induction xs using lines_induction generalizing first last with
  | nil => simp [linesFrom, rowsBetween]
  | last line hne hline =>
    have hfront : '\n' ∉ line.dropLast := fun hmem => hline (List.mem_of_mem_dropLast hmem)
    rw [linesFrom_of_not_mem [] (Or.inr hne) hline, rowsBetween_of_not_mem first last hfront]
    cases first with
    | zero =>
      cases last with
      | zero => simp
      | succ last => simp
    | succ first => simp
  | line line rest hline ih =>
    rw [linesFrom_line [] hline, rowsBetween_line first last hline, ← ih]
    cases first with
    | zero =>
      cases last with
      | zero => simp
      | succ last => simp
    | succ first => 
      have hlast : last - (first + 1) = last - 1 - first := by omega
      simp [hlast]

/-- There are no rows in an empty range. -/
lemma rowsBetween_of_le {first last : Nat} (h : last ≤ first) (xs : List Char) :
    rowsBetween first last xs = [] := by
  rw [← flatten_lines_eq_rowsBetween, Nat.sub_eq_zero_of_le h, List.take_zero, List.flatten_nil]

/-- There are no rows behind the last line. -/
lemma rowsBetween_min_length (xs : List Char) :
    rowsBetween first (min last (linesFrom [] xs).length) xs = rowsBetween first last xs := by
  rw [← flatten_lines_eq_rowsBetween, ← flatten_lines_eq_rowsBetween]
  refine congrArg _ (List.take_eq_take_iff.mpr ?_)
  rw [List.length_drop]
  omega

/-- Rows that follow each other are a stretch of the text, behind all the rows before them. -/
lemma exists_eq_append_rowsBetween (xs : List Char) :
    ∃ behind, xs = rowsBetween 0 first xs ++ (rowsBetween first last xs ++ behind) := by
  set lines := linesFrom [] xs
  have hlines : lines = lines.take first ++ ((lines.drop first).take (last - first) ++
      (lines.drop first).drop (last - first)) := by
    rw [List.take_append_drop, List.take_append_drop]
  have hbefore : (lines.take first).flatten = rowsBetween 0 first xs :=
    flatten_lines_eq_rowsBetween 0 first xs
  refine ⟨((lines.drop first).drop (last - first)).flatten, ?_⟩
  rw [← hbefore, ← flatten_lines_eq_rowsBetween, ← List.flatten_append, ← List.flatten_append,
    ← hlines, flatten_linesFrom]

end Rows

/-! ## The lines of a text and ranges of them -/

/-- A text and its lines. -/
structure IsCut (s : String) (lines : List String) : Prop where
  /-- The lines are the text, -/
  join : String.join lines = s
  /-- every line but the last one ends in its only line feed, which the last may lack, -/
  whole : ∀ i line, lines[i]? = some line →
    (∃ front, '\n' ∉ front ∧ line.toList = front ++ ['\n']) ∨
      i + 1 = lines.length ∧ line ≠ "" ∧ '\n' ∉ line.toList
  /-- and a line has the characters of its row. -/
  row : ∀ i, (lines[i]?.getD "").toList = rowsBetween i (i + 1) s.toList

/-- The part of a list between two places, if they are in order and inside the list. -/
def slice? {α : Type} (xs : List α) (start stop : Nat) : Option (List α) :=
  if start ≤ stop ∧ stop ≤ xs.length then some ((xs.drop start).take (stop - start)) else none

/-- The text of a range of lines. -/
structure IsRange (s : String) (lines : List String) (first last : Nat) (text : String) : Prop where
  /-- It is cut out between two places in order inside the lines. -/
  inside : ∃ slice, slice? lines (min (first - 1) lines.length)
      (max (min last lines.length) (min (first - 1) lines.length)) = some slice ∧
    text = trim (String.join slice)
  /-- It is what stands between the rows before the range and those behind it, trimmed, -/
  block : ∃ before block behind, s = before ++ (block ++ behind) ∧
    before.toList = rowsBetween 0 (max first 1 - 1) s.toList ∧
    block.toList = rowsBetween (max first 1 - 1) (min last lines.length) s.toList ∧
    text = trim block
  /-- nothing if there is no line in the range, -/
  empty : max first 1 ≤ min last lines.length ∨ text = ""
  /-- and a stretch of the text in any case. -/
  stretch : text.toList <:+: s.toList

section Ranges

variable (s : String)

/-- A text is cut into its lines. -/
lemma isCut_physicalLines : IsCut s (physicalLines s) where
  join := by
    rw [← String.toList_inj, physicalLines, toList_join_map_ofList, flatten_linesFrom]
  whole := by
    intro i line h
    rw [physicalLines, List.getElem?_map, Option.map_eq_some_iff] at h
    obtain ⟨chars, hchars, rfl⟩ := h
    simpa [physicalLines] using whole_or_last_of_getElem?_linesFrom s.toList hchars
  row := by
    intro i
    rw [← flatten_lines_eq_rowsBetween, Nat.add_sub_cancel_left, List.take_one, List.head?_drop,
      physicalLines, List.getElem?_map]
    cases (linesFrom [] s.toList)[i]? with
    | none => rfl
    | some line => simp

/-- The places at which a range of lines is cut out are in order and inside the lines. -/
lemma exists_slice?_eq (lines : List String) (first last : Nat) :
    ∃ slice, slice? lines (min (first - 1) lines.length)
        (max (min last lines.length) (min (first - 1) lines.length)) = some slice ∧
      sliceLines lines first last = trim (String.join slice) := by
  refine ⟨_, if_pos ⟨?_, ?_⟩, rfl⟩
  · exact Nat.le_max_right _ _
  · exact Nat.max_le.mpr ⟨Nat.min_le_right _ _, Nat.min_le_right _ _⟩

/-- A range of lines has the characters of its rows, without the blanks at the ends. -/
lemma sliceLines_physicalLines (first last : Nat) :
    sliceLines (physicalLines s) first last =
      trim (String.ofList (rowsBetween (max first 1 - 1) (min last (physicalLines s).length)
        s.toList)) := by
  have hfirst : max first 1 - 1 = first - 1 := by omega
  have hlength : (physicalLines s).length = (linesFrom [] s.toList).length := List.length_map _
  rw [hfirst, hlength, rowsBetween_min_length, ← String.toList_inj,
    toList_sliceLines_physicalLines, flatten_lines_eq_rowsBetween, trim, String.toList_ofList,
    String.toList_ofList]

/-- **The lines of a text, and ranges of them.** A text is cut into its lines: they are the text,
every line but the last ends in its only line feed, and a line has exactly the characters of its
row. A range of lines, whatever its two numbers are, is cut out inside the lines, and is the text
from the begin of its first line, not before the first one, to the end of its last line, not behind
the last one, without the blanks at both ends.

**Proof sketch.** By induction over the lines, ranges of lines and ranges of rows are the same
(`flatten_lines_eq_rowsBetween`), and the numbers outside the text do not matter to either. -/
theorem physicalLines_sliceLines :
    IsCut s (physicalLines s) ∧ ∀ first last : Nat,
      IsRange s (physicalLines s) first last (sliceLines (physicalLines s) first last) := by
  refine ⟨isCut_physicalLines s, fun first last => ?_⟩
  set start := max first 1 - 1
  set stop := min last (physicalLines s).length
  have htext := sliceLines_physicalLines s first last
  obtain ⟨behind, hsplit⟩ := exists_eq_append_rowsBetween start stop s.toList
  refine ⟨exists_slice?_eq _ _ _, ⟨String.ofList (rowsBetween 0 start s.toList),
    String.ofList (rowsBetween start stop s.toList), String.ofList behind, ?_,
    String.toList_ofList, String.toList_ofList, htext⟩, ?_, ?_⟩
  · rw [← String.toList_inj]
    simpa using hsplit
  · rcases Nat.lt_or_ge stop (max first 1) with hempty | hle
    · right
      rw [htext, rowsBetween_of_le (by omega)]
      rfl
    · exact Or.inl hle
  · rw [htext, trim, String.toList_ofList, String.toList_ofList]
    exact (trimChars_isInfix _).trans ⟨_, behind, by rw [List.append_assoc]; exact hsplit.symm⟩

end Ranges

end CodeCatalog.Text
