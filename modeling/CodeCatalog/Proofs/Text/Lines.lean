import Mathlib.Data.List.DropRight
import Mathlib.Data.List.Infix
import Mathlib.Tactic.Lemma
import CodeCatalog.Text.Bytes
import CodeCatalog.Text.Lines

/-!
# Stretches of a text and its lines

A stretch between two byte offsets lies within the lines from the one where it begins to the one
where it ends. Trimming a block of lines takes nothing away from a trimmed stretch of it.

## Main results

* `CodeCatalog.Text.toList_between` — the text between two offsets is what stands between the
  text before the one and the text before the other.
* `CodeCatalog.Text.isInfix_flatten_rows` — a stretch lies within the lines of its ends.
* `CodeCatalog.Text.isInfix_trimChars` — trimming keeps trimmed stretches.
* `CodeCatalog.Text.trim_isInfix_sliceLines` — the two together, for a range of lines.
-/

namespace CodeCatalog.Text

/-! ## Offsets in bytes -/

section Offsets

/-- The bytes of two texts are counted together. -/
@[simp] lemma byteSize_append (xs ys : List Char) :
    byteSize (xs ++ ys) = byteSize xs + byteSize ys := by
  induction xs with
  | nil => simp [byteSize]
  | cons x xs ih =>
    simp only [List.cons_append, byteSize, ih]
    omega

/-- Characters have bytes. -/
lemma byteSize_pos {xs : List Char} (h : xs ≠ []) : 0 < byteSize xs := by
  cases xs with
  | nil => exact absurd rfl h
  | cons x xs =>
    have hx := x.utf8Size_pos
    simp only [byteSize]
    omega

/-- Behind the bytes of a text the rest begins. -/
lemma dropBytes_append (xs ys : List Char) : dropBytes (byteSize xs) (xs ++ ys) = ys := by
  induction xs with
  | nil => simp [byteSize, dropBytes]
  | cons x xs ih =>
    have hx := x.utf8Size_pos
    obtain ⟨k, hk⟩ : ∃ k, byteSize (x :: xs) = k + 1 := ⟨byteSize (x :: xs) - 1, by
      simp only [byteSize]
      omega⟩
    have hrest : k + 1 - x.utf8Size = byteSize xs := by
      simp only [byteSize] at hk
      omega
    rw [hk, List.cons_append, dropBytes, hrest, ih]

/-- The bytes of a text are those of the text itself. -/
lemma takeBytes_append (xs ys : List Char) : takeBytes (byteSize xs) (xs ++ ys) = xs := by
  induction xs with
  | nil => simp [byteSize, takeBytes]
  | cons x xs ih =>
    have hx := x.utf8Size_pos
    obtain ⟨k, hk⟩ : ∃ k, byteSize (x :: xs) = k + 1 := ⟨byteSize (x :: xs) - 1, by
      simp only [byteSize]
      omega⟩
    have hrest : k + 1 - x.utf8Size = byteSize xs := by
      simp only [byteSize] at hk
      omega
    rw [hk, List.cons_append, takeBytes, hrest, ih]

/-- What stands before an offset begins the text. -/
lemma takeBytes_isPrefix (n : Nat) (xs : List Char) : takeBytes n xs <+: xs := by
  fun_induction takeBytes n xs with
  | case1 xs => exact List.nil_prefix
  | case2 n hn => exact List.nil_prefix
  | case3 n x xs ih => exact (List.cons_prefix_cons).mpr ⟨rfl, ih⟩

/-- Of two begins of a text the one with fewer bytes begins the other. -/
lemma isPrefix_of_byteSize_le {xs ys zs : List Char} (hx : xs <+: zs) (hy : ys <+: zs)
    (h : byteSize xs ≤ byteSize ys) : xs <+: ys := by
  rcases List.prefix_or_prefix_of_prefix hx hy with hxy | ⟨more, rfl⟩
  · exact hxy
  · rw [byteSize_append] at h
    have hmore : more = [] := by
      by_contra hne
      have := byteSize_pos hne
      omega
    rw [hmore, List.append_nil]

/-- The text between two offsets is what stands between the text before the one and the text
before the other. -/
lemma toList_between (before piece rest : List Char) :
    (between (before ++ (piece ++ rest)) (byteSize before) (byteSize (before ++ piece))).toList =
      piece := by
  rw [between, String.toList_ofList, dropBytes_append, byteSize_append, Nat.add_sub_cancel_left,
    takeBytes_append]

/-- Behind the bytes of a text an offset counts in the rest. -/
lemma dropBytes_add (xs ys : List Char) (n : Nat) :
    dropBytes (byteSize xs + n) (xs ++ ys) = dropBytes n ys := by
  induction xs with
  | nil => simp [byteSize]
  | cons x xs ih =>
    have hx := x.utf8Size_pos
    obtain ⟨k, hk⟩ : ∃ k, byteSize (x :: xs) + n = k + 1 := ⟨byteSize (x :: xs) + n - 1, by
      simp only [byteSize]
      omega⟩
    have hrest : k + 1 - x.utf8Size = byteSize xs + n := by
      simp only [byteSize] at hk
      omega
    rw [hk, List.cons_append, dropBytes, hrest, ih]

/-- The text between two offsets behind another text. -/
lemma between_append (xs ys : List Char) (start stop : Nat) :
    between (xs ++ ys) (start + byteSize xs) (stop + byteSize xs) = between ys start stop := by
  rw [between, Nat.add_sub_add_right, Nat.add_comm start, dropBytes_add, between]

end Offsets

/-! ## Rows -/

section Rows

/-- A text without line feed is one line with the next one. -/
lemma linesFrom_line (part : List Char) {line : List Char} (h : '\n' ∉ line) (rest : List Char) :
    linesFrom part (line ++ '\n' :: rest) =
      (part.reverse ++ (line ++ ['\n'])) :: linesFrom [] rest := by
  induction line generalizing part with
  | nil => simp [linesFrom]
  | cons x line ih =>
    have hx : x ≠ '\n' := fun hx => h (hx ▸ List.mem_cons_self)
    have hline : '\n' ∉ line := fun hmem => h (List.mem_cons_of_mem _ hmem)
    rw [List.cons_append, linesFrom, if_neg hx, ih (x :: part) hline]
    simp

/-- The line under way stands at the begin of the first line. -/
lemma isPrefix_flatten_take_one (part xs : List Char) :
    part.reverse <+: ((linesFrom part xs).take 1).flatten := by
  induction xs generalizing part with
  | nil =>
    cases part with
    | nil => simp [linesFrom]
    | cons c part => simp [linesFrom]
  | cons x xs ih =>
    rw [linesFrom]
    split
    · simp
    · refine List.IsPrefix.trans ?_ (ih (x :: part))
      rw [List.reverse_cons]
      exact List.prefix_append _ _

/-- Before a place with `r` line feeds before it stand `r` whole lines, and not more than `r + 1`.

**Proof sketch.** Induction on what stands before the place, for every line under way. A line
feed ends that line, which both sides take off; any other character joins it. -/
lemma flatten_take_linesFrom (part before rest : List Char) :
    ((linesFrom part (before ++ rest)).take (before.count '\n')).flatten <+:
        part.reverse ++ before ∧
      part.reverse ++ before <+:
        ((linesFrom part (before ++ rest)).take (before.count '\n' + 1)).flatten := by
  induction before generalizing part with
  | nil => exact ⟨by simp, by simpa using isPrefix_flatten_take_one part rest⟩
  | cons x before ih =>
    rw [List.cons_append, linesFrom]
    by_cases hx : x = '\n'
    · obtain ⟨hlow, hhigh⟩ := ih []
      subst hx
      simp only [List.reverse_nil, List.nil_append] at hlow hhigh
      simp only [if_true, List.count_cons_self, List.take_succ_cons, List.flatten_cons,
        List.reverse_cons, List.append_assoc, List.singleton_append]
      exact ⟨(List.prefix_append_right_inj _).mpr ((List.prefix_append_right_inj ['\n']).mpr hlow),
        (List.prefix_append_right_inj _).mpr ((List.prefix_append_right_inj ['\n']).mpr hhigh)⟩
    · have hcount : (x :: before).count '\n' = before.count '\n' := List.count_cons_of_ne hx
      have hpart : part.reverse ++ x :: before = (x :: part).reverse ++ before := by simp
      rw [if_neg hx, hcount, hpart]
      exact ih (x :: part)

/-- **A stretch lies within the lines of its ends**, from a row not behind its begin to a row not
before its end. -/
lemma isInfix_flatten_rows (before piece rest : List Char) {first last : Nat}
    (hfirst : first ≤ before.count '\n') (hlast : (before ++ piece).count '\n' ≤ last) :
    piece <:+: (((linesFrom [] (before ++ (piece ++ rest))).drop first).take
      (last + 1 - first)).flatten := by
  set lines := linesFrom [] (before ++ (piece ++ rest)) with hlines
  have hrows : first ≤ last + 1 := by
    rw [List.count_append] at hlast
    omega
  obtain ⟨left, hleft⟩ : (lines.take first).flatten <+: before :=
    (List.take_prefix_take_left hfirst).flatten.trans
      (flatten_take_linesFrom [] before (piece ++ rest)).1
  obtain ⟨right, hright⟩ : before ++ piece <+: (lines.take (last + 1)).flatten := by
    have hrow := (flatten_take_linesFrom [] (before ++ piece) rest).2
    rw [List.append_assoc before piece rest, ← hlines] at hrow
    exact hrow.trans (List.take_prefix_take_left (by omega)).flatten
  -- the lines up to the last row are those above the first row and the block
  have hblock : (lines.take first).flatten ++
      ((lines.drop first).take (last + 1 - first)).flatten = (lines.take (last + 1)).flatten := by
    rw [← List.flatten_append, ← List.take_add, Nat.add_sub_cancel' hrows]
  rw [← hright, ← hleft, List.append_assoc, List.append_assoc] at hblock
  exact ⟨left, right, by rw [List.append_cancel_left hblock]; simp⟩

/-- Rows outside the text do not matter to a range of lines. -/
lemma sliceLines_eq (lines : List String) (first last : Nat) :
    sliceLines lines first last =
      trim (String.join ((lines.drop (first - 1)).take (last - (first - 1)))) := by
  have hblock : (lines.drop (min (first - 1) lines.length)).take
      (max (min last lines.length) (min (first - 1) lines.length) -
        min (first - 1) lines.length) = (lines.drop (first - 1)).take (last - (first - 1)) := by
    rcases Nat.le_total (first - 1) lines.length with h | h
    · rw [Nat.min_eq_left h]
      rcases Nat.le_total last lines.length with hlast | hlast
      · rw [Nat.min_eq_left hlast]
        congr 1
        omega
      · rw [List.take_of_length_le (by rw [List.length_drop]; omega),
          List.take_of_length_le (by rw [List.length_drop]; omega)]
    · rw [Nat.min_eq_right h, List.drop_length, List.drop_eq_nil_of_le h, List.take_nil,
        List.take_nil]
  simp only [sliceLines, hblock]

/-- The characters of joined texts. -/
lemma toList_join_map_ofList (lines : List (List Char)) :
    (String.join (lines.map String.ofList)).toList = lines.flatten := by
  rw [String.toList_join, List.flatMap_map]
  simp [List.flatMap_def]

/-- The characters of a range of lines. -/
lemma toList_sliceLines_physicalLines (source : String) (first last : Nat) :
    (sliceLines (physicalLines source) first last).toList =
      trimChars (((linesFrom [] source.toList).drop (first - 1)).take
        (last - (first - 1))).flatten := by
  rw [sliceLines_eq, trim, String.toList_ofList, physicalLines, ← List.map_drop, ← List.map_take,
    toList_join_map_ofList]

/-- The lines of two texts, one behind the other, are those of the one and those of the other, if
the first ends with a line feed. -/
lemma linesFrom_append (part : List Char) {front : List Char}
    (hfront : front.getLast? = some '\n') (back : List Char) :
    linesFrom part (front ++ back) = linesFrom part front ++ linesFrom [] back := by
  induction front generalizing part with
  | nil => cases hfront
  | cons x front ih =>
    rw [List.cons_append, linesFrom, linesFrom]
    cases front with
    | nil =>
      obtain rfl : x = '\n' := by simpa using hfront
      simp [linesFrom]
    | cons y front =>
      have hlast : (y :: front).getLast? = some '\n' := by simpa using hfront
      split
      · rw [ih [] hlast, List.cons_append]
      · exact ih (x :: part) hlast

/-- A text that ends with a line feed has a line for every line feed. -/
lemma length_linesFrom (part : List Char) {xs : List Char} (hxs : xs.getLast? = some '\n') :
    (linesFrom part xs).length = xs.count '\n' := by
  induction xs generalizing part with
  | nil => cases hxs
  | cons x xs ih =>
    rw [linesFrom]
    cases xs with
    | nil =>
      obtain rfl : x = '\n' := by simpa using hxs
      simp [linesFrom]
    | cons y xs =>
      have hlast : (y :: xs).getLast? = some '\n' := by simpa using hxs
      split
      · rename_i hx
        rw [List.length_cons, ih [] hlast, hx, List.count_cons_self]
      · rename_i hx
        rw [ih (x :: part) hlast, List.count_cons_of_ne hx]

/-- Behind a line feed new lines begin. -/
lemma physicalLines_append {front : String} (hfront : front.toList.getLast? = some '\n')
    (back : String) :
    physicalLines (front ++ back) = physicalLines front ++ physicalLines back := by
  rw [physicalLines, String.toList_append, linesFrom_append [] hfront, List.map_append]
  rfl

/-- A text that ends in a line feed has as many lines as line feeds. -/
lemma length_physicalLines {s : String} (hs : s.toList.getLast? = some '\n') :
    (physicalLines s).length = s.toList.count '\n' := by
  rw [physicalLines, List.length_map, length_linesFrom [] hs]

/-- A range of lines that ends in the first part of the lines. -/
lemma sliceLines_append_left (front back : List String) {first last : Nat}
    (hlast : last ≤ front.length) :
    sliceLines (front ++ back) first last = sliceLines front first last := by
  rw [sliceLines_eq, sliceLines_eq]
  rcases Nat.le_total (first - 1) front.length with hfirst | hfirst
  · rw [List.drop_append_of_le_length hfirst,
      List.take_append_of_le_length (by rw [List.length_drop]; omega)]
  · rw [Nat.sub_eq_zero_of_le (by omega), List.take_zero, List.take_zero]

/-- A range of lines behind the first part of the lines. -/
lemma sliceLines_append_right (front back : List String) (first last : Nat) :
    sliceLines (front ++ back) (first + 1 + front.length) (last + 1 + front.length) =
      sliceLines back (first + 1) (last + 1) := by
  rw [sliceLines_eq, sliceLines_eq]
  have hdrop : first + 1 + front.length - 1 = front.length + (first + 1 - 1) := by omega
  have htake : last + 1 + front.length - (front.length + (first + 1 - 1)) =
      last + 1 - (first + 1 - 1) := by omega
  rw [hdrop, List.drop_length_add_append, htake]

end Rows

/-! ## Trimming -/

section Trimming

/-- A text that begins and ends with something that is not blank. -/
structure Tight (xs : List Char) : Prop where
  begins : ∀ x ∈ xs.head?, ¬ isBlank x
  ends : ∀ x ∈ xs.getLast?, ¬ isBlank x

/-- Dropping at the begin stops at a text that begins with something to keep. -/
lemma dropWhile_append_append {p : Char → Bool} {xs : List Char} (hne : xs ≠ [])
    (hxs : ∀ x ∈ xs.head?, ¬ p x) (left right : List Char) :
    (left ++ (xs ++ right)).dropWhile p = left.dropWhile p ++ (xs ++ right) := by
  obtain ⟨x, rest, rfl⟩ := List.exists_cons_of_ne_nil hne
  rw [List.dropWhile_append]
  split
  · rename_i hnil
    rw [List.isEmpty_iff.mp hnil, List.cons_append, List.dropWhile_cons_of_neg (hxs x rfl),
      List.nil_append]
  · rfl

/-- A tight text stays when blanks around it are dropped. -/
lemma trimChars_append_append {xs : List Char} (hne : xs ≠ []) (hxs : Tight xs)
    (left right : List Char) :
    trimChars (left ++ (xs ++ right)) =
      left.dropWhile isBlank ++ (xs ++ dropWhileEnd isBlank right) := by
  have hback (front : List Char) : dropWhileEnd isBlank (front ++ (xs ++ right)) =
      front ++ (xs ++ dropWhileEnd isBlank right) := by
    have hends : ∀ x ∈ xs.reverse.head?, ¬ isBlank x := by
      rw [List.head?_reverse]
      exact hxs.ends
    simp only [dropWhileEnd, List.reverse_append, List.append_assoc]
    rw [dropWhile_append_append (by simpa using hne) hends]
    simp
  rw [trimChars, dropWhile_append_append hne hxs.begins, hback]

/-- What trimming leaves is tight, and blanks stand around it. -/
lemma exists_eq_append_trimChars (xs : List Char) :
    ∃ left right, xs = left ++ (trimChars xs ++ right) ∧ Tight (trimChars xs) := by
  set middle := xs.dropWhile isBlank with hmiddle
  have htrim : trimChars xs = middle.rdropWhile isBlank := rfl
  refine ⟨xs.takeWhile isBlank, (middle.reverse.takeWhile isBlank).reverse, ?_, ?_, ?_⟩
  · have hback : middle.rdropWhile isBlank ++ (middle.reverse.takeWhile isBlank).reverse =
        middle := by
      rw [List.rdropWhile, ← List.reverse_append, List.takeWhile_append_dropWhile,
        List.reverse_reverse]
    rw [htrim, hback, hmiddle, List.takeWhile_append_dropWhile]
  · intro x hx
    rw [htrim] at hx
    -- what is dropped at the end leaves the begin as it is
    have hhead : middle.head? = some x := by
      obtain ⟨more, hmore⟩ := List.rdropWhile_prefix isBlank (l := middle)
      rw [← hmore, List.head?_append, Option.mem_def.mp hx]
      rfl
    have hnot := List.head?_dropWhile_not isBlank xs
    rw [← hmiddle, hhead] at hnot
    simpa using hnot
  · intro x hx
    rw [htrim] at hx
    have hne : middle.rdropWhile isBlank ≠ [] := by
      rintro hnil
      simp [hnil] at hx
    have hnot := List.rdropWhile_last_not isBlank middle hne
    rw [List.getLast?_eq_some_getLast hne, Option.mem_some_iff] at hx
    rwa [hx] at hnot

/-- What trimming leaves stands in the text. -/
lemma trimChars_isInfix (xs : List Char) : trimChars xs <:+: xs := by
  obtain ⟨left, right, hxs, -⟩ := exists_eq_append_trimChars xs
  exact ⟨left, right, by rw [List.append_assoc, ← hxs]⟩

/-- **Trimming keeps trimmed stretches**: what stands somewhere in a text stands, without the
blanks at its ends, in the trimmed text. -/
lemma isInfix_trimChars {xs ys : List Char} (h : xs <:+: ys) : trimChars xs <:+: trimChars ys := by
  obtain ⟨left, right, rfl⟩ := h
  obtain ⟨left', right', hxs, htight⟩ := exists_eq_append_trimChars xs
  by_cases hne : trimChars xs = []
  · rw [hne]
    exact List.nil_infix
  · have hwhole : left ++ xs ++ right = (left ++ left') ++ (trimChars xs ++ (right' ++ right)) := by
      conv_lhs => rw [hxs]
      simp
    rw [hwhole, trimChars_append_append hne htight]
    exact ⟨_, _, List.append_assoc _ _ _⟩

/-- A text without blanks has nothing to trim. -/
lemma trimChars_eq_self {xs : List Char} (h : ∀ x ∈ xs, ¬ isBlank x) : trimChars xs = xs := by
  by_cases hne : xs = []
  · rw [hne]
    rfl
  · have htight : Tight xs :=
      ⟨fun x hx => h x (List.mem_of_mem_head? hx), fun x hx => h x (List.mem_of_mem_getLast? hx)⟩
    simpa [dropWhileEnd] using trimChars_append_append hne htight [] []

/-- Nothing is left of a text of blanks, and of no other. -/
lemma trimChars_eq_nil_iff {xs : List Char} : trimChars xs = [] ↔ ∀ x ∈ xs, isBlank x := by
  rw [trimChars, dropWhileEnd, List.reverse_eq_nil_iff, List.dropWhile_eq_nil_iff]
  constructor
  · intro h x hx
    rw [← List.takeWhile_append_dropWhile (p := isBlank) (l := xs), List.mem_append] at hx
    exact hx.elim List.mem_takeWhile_imp fun hx => h x (List.mem_reverse.mpr hx)
  · intro h x hx
    exact h x ((List.dropWhile_sublist isBlank).subset (List.mem_reverse.mp hx))

/-- Nothing is left of a text of blanks only. -/
lemma trim_isEmpty_iff {s : String} :
    (trim s).isEmpty = true ↔ ∀ x ∈ s.toList, isBlank x := by
  rw [String.isEmpty_iff, trim, String.ofList_eq_empty_iff, trimChars_eq_nil_iff]

end Trimming

/-- **A range of lines contains what stands in it**, both without the blanks at their ends: a
stretch of a text is contained in the trimmed lines from a row not behind its begin to a row not
before its end. -/
lemma trim_isInfix_sliceLines {source : String} {before piece rest : List Char}
    (hsource : source.toList = before ++ (piece ++ rest)) {first last : Nat}
    (hfirst : first ≤ before.count '\n') (hlast : (before ++ piece).count '\n' ≤ last) :
    trimChars piece <:+: (sliceLines (physicalLines source) (first + 1) (last + 1)).toList := by
  rw [toList_sliceLines_physicalLines, hsource, Nat.add_sub_cancel]
  exact isInfix_trimChars (isInfix_flatten_rows before piece rest hfirst hlast)

end CodeCatalog.Text
