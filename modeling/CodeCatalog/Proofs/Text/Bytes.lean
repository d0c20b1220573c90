import Mathlib.Data.List.DropRight
import Mathlib.Tactic.Lemma
import Mathlib.Tactic.SplitIfs
import CodeCatalog.Text.Lines

/-!
# Texts as lines of bytes

Of the bytes of a text, those below 128 are the characters below 128. So a text without control
characters has no line end among its bytes, and texts that are written one to a line are found
again on the lines. Texts are in the order of their bytes.

## Main definitions

* `CodeCatalog.Text.NoControls` — a text without control characters.
* `CodeCatalog.Text.asLines` — texts, one to a line.

## Main results

* `CodeCatalog.Text.lineText?_toUTF8` — the bytes of a text are that text.
* `CodeCatalog.Text.toUTF8_lt` — the bytes of texts are in the order of the texts.
* `CodeCatalog.Text.byteLines_asLines` — what is written one to a line is found on the lines.
-/

namespace CodeCatalog.Text

/-! ## Bytes of a text -/

/-- The loop puts the bytes from an index on behind those it has taken. -/
lemma toList_loop (bytes : ByteArray) (i : Nat) (taken : List UInt8) :
    ByteArray.toList.loop bytes i taken = taken.reverse ++ bytes.data.toList.drop i := by
  fun_induction ByteArray.toList.loop bytes i taken with
  | case1 i taken hlt ih =>
    have hlength : i < bytes.data.toList.length := by simpa using hlt
    have hget : bytes.get! i = bytes.data.toList[i] := by
      have hindex : bytes.get! i = bytes.data[i]! := by cases bytes; rfl
      rw [hindex, getElem!_pos bytes.data i hlt, Array.getElem_toList]
    rw [ih, List.drop_eq_getElem_cons hlength, hget, List.reverse_cons, List.append_assoc,
      List.singleton_append]
  | case2 i taken hlt =>
    rw [List.drop_eq_nil_of_le (by simpa using Nat.le_of_not_lt hlt), List.append_nil]

/-- The bytes as a list are those of the array. -/
@[simp] lemma toList_eq_data (bytes : ByteArray) : bytes.toList = bytes.data.toList := by
  rw [ByteArray.toList, toList_loop]
  simp

/-- The bytes of a text are those of its characters. -/
lemma toList_toUTF8 (s : String) : s.toUTF8.toList = s.toList.flatMap String.utf8EncodeChar := by
  rw [String.toUTF8_eq_toByteArray, ← String.utf8Encode_toList, toList_eq_data, List.utf8Encode,
    List.toList_data_toByteArray]

/-- The bytes of two texts are those of the one and those of the other. -/
lemma toList_toUTF8_append (s t : String) :
    (s ++ t).toUTF8.toList = s.toUTF8.toList ++ t.toUTF8.toList := by
  rw [toList_toUTF8, toList_toUTF8, toList_toUTF8, String.toList_append, List.flatMap_append]

/-- Only the empty text has no bytes. -/
lemma toList_toUTF8_eq_nil_iff {s : String} : s.toUTF8.toList = [] ↔ s = "" := by
  rw [toList_toUTF8, List.flatMap_eq_nil_iff, ← String.toList_eq_nil_iff]
  constructor
  · intro h
    refine List.eq_nil_iff_forall_not_mem.mpr fun c hc => ?_
    exact String.utf8EncodeChar_ne_nil (h c hc)
  · intro h
    rw [h]
    exact List.forall_mem_nil _

/-- Bytes put together are lists put together. -/
lemma toList_append (a b : ByteArray) : (a ++ b).toList = a.toList ++ b.toList := by
  simp

/-- The bytes of a text are that text. -/
lemma fromUTF8?_toUTF8 (s : String) : String.fromUTF8? s.toUTF8 = some s := by
  rw [String.toUTF8_eq_toByteArray, String.fromUTF8?, dif_pos s.isValidUTF8]
  rfl

/-- A text that is not empty has bytes. -/
lemma isEmpty_toUTF8 {s : String} (h : s ≠ "") : s.toUTF8.isEmpty = false := by
  rw [Bool.eq_false_iff]
  intro hempty
  refine h (String.toByteArray_eq_empty_iff.mp (ByteArray.size_eq_zero_iff.mp ?_))
  simpa [ByteArray.isEmpty] using hempty

/-- The bytes of a text are the line with this text. -/
lemma lineText?_toUTF8 (s : String) : lineText? s.toUTF8.toList = some s := by
  rw [lineText?, toList_eq_data, Array.toArray_toList]
  exact fromUTF8?_toUTF8 s

/-- Only the bytes of a text are the line with this text. -/
lemma eq_of_lineText?_eq_some {line : List UInt8} {s : String} (h : lineText? line = some s) :
    line = s.toUTF8.toList := by
  rw [lineText?, String.fromUTF8?] at h
  split at h
  · cases h
    rw [toList_eq_data]
    rfl
  · cases h

/-- A byte below 128 belongs to the character with its number: every byte of a longer character
has its highest bit set. -/
lemma toNat_eq_of_mem_utf8EncodeChar {c : Char} {b : UInt8} (hb : b ∈ String.utf8EncodeChar c)
    (hlow : b.toNat < 128) : c.toNat = b.toNat := by
  have hhigh {n : Nat} (hn : 128 ≤ n ∧ n < 256) : b ≠ UInt8.ofNat n := by
    rintro rfl
    rw [UInt8.toNat_ofNat_of_lt' hn.2] at hlow
    omega
  unfold String.utf8EncodeChar at hb
  dsimp only at hb
  split at hb
  · rename_i hsmall
    obtain rfl := List.mem_singleton.mp hb
    rw [UInt8.toNat_ofNat_of_lt' (Nat.lt_of_le_of_lt hsmall (by decide))]
    rfl
  · exfalso
    split at hb
    · simp only [List.mem_cons, List.not_mem_nil, or_false] at hb
      rcases hb with hb | hb <;> exact hhigh (by omega) hb
    · split at hb
      · simp only [List.mem_cons, List.not_mem_nil, or_false] at hb
        rcases hb with hb | hb | hb <;> exact hhigh (by omega) hb
      · simp only [List.mem_cons, List.not_mem_nil, or_false] at hb
        rcases hb with hb | hb | hb | hb <;> exact hhigh (by omega) hb

/-! ## Order -/

/-- Bytes that differ decide about the order. -/
lemma ofNat_cons_lt {m n : Nat} (h : m < n) (hn : n < 256) (xs ys : List UInt8) :
    UInt8.ofNat m :: xs < UInt8.ofNat n :: ys := by
  refine List.cons_lt_cons_iff.mpr (Or.inl ?_)
  rw [UInt8.lt_iff_toNat_lt, UInt8.toNat_ofNat_of_lt' (Nat.lt_trans h hn),
    UInt8.toNat_ofNat_of_lt' hn]
  exact h

/-- One more byte of numbers in base 64: the bytes before it decide about the order, or the byte
itself where they are the same. -/
lemma append_digit_lt (front back : List UInt8) {m n : Nat} (h : m < n)
    (hless : m / 64 < n / 64 → ∀ xs ys, front ++ xs < back ++ ys)
    (hsame : m / 64 = n / 64 → front = back) (xs ys : List UInt8) :
    front ++ UInt8.ofNat (m % 64 + 128) :: xs < back ++ UInt8.ofNat (n % 64 + 128) :: ys := by
  rcases Nat.lt_or_ge (m / 64) (n / 64) with hlt | hge
  · exact hless hlt _ _
  · rw [hsame (by omega)]
    exact List.append_left_lt (ofNat_cons_lt (by omega) (by omega) xs ys)

/-- A character with a smaller number has bytes that come before, whatever follows them.

**Proof sketch.** A character with fewer bytes has a smaller first byte. Where both have as many,
the bytes are their numbers in base 64, from the highest place on. -/
lemma utf8EncodeChar_append_lt {c d : Char} (h : c < d) (xs ys : List UInt8) :
    String.utf8EncodeChar c ++ xs < String.utf8EncodeChar d ++ ys := by
  have hlt : c.val.toNat < d.val.toNat := h
  have hmax : d.val.toNat < 1114112 := by
    have := d.valid
    unfold UInt32.isValidChar Nat.isValidChar at this
    omega
  unfold String.utf8EncodeChar
  dsimp only
  generalize c.val.toNat = m at hlt
  generalize d.val.toNat = n at hlt hmax
  have hplaces : ∀ k, k / 4096 = k / 64 / 64 ∧ k / 262144 = k / 64 / 64 / 64 := by omega
  simp only [fun k => (hplaces k).1, fun k => (hplaces k).2]
  split_ifs
  -- the first character cannot have more bytes; where it has fewer, its first byte is smaller
  any_goals omega
  · exact ofNat_cons_lt hlt (by omega) xs ys
  · exact ofNat_cons_lt (by omega) (by omega) _ _
  · exact ofNat_cons_lt (by omega) (by omega) _ _
  · exact ofNat_cons_lt (by omega) (by omega) _ _
  · exact append_digit_lt [_] [_] hlt (fun hless => ofNat_cons_lt (by omega) (by omega))
      (fun hsame => by rw [hsame]) xs ys
  · exact ofNat_cons_lt (by omega) (by omega) _ _
  · exact ofNat_cons_lt (by omega) (by omega) _ _
  · refine append_digit_lt [_, _] [_, _] hlt (fun hless => ?_) (fun hsame => by rw [hsame]) xs ys
    exact append_digit_lt [_] [_] hless (fun hless => ofNat_cons_lt (by omega) (by omega))
      fun hsame => by rw [hsame]
  · exact ofNat_cons_lt (by omega) (by omega) _ _
  · refine append_digit_lt [_, _, _] [_, _, _] hlt (fun hless => ?_) (fun hsame => by rw [hsame])
      xs ys
    refine append_digit_lt [_, _] [_, _] hless (fun hless => ?_) fun hsame => by rw [hsame]
    exact append_digit_lt [_] [_] hless (fun hless => ofNat_cons_lt (by omega) (by omega))
      fun hsame => by rw [hsame]

/-- Texts are in the order of their bytes. -/
lemma flatMap_utf8EncodeChar_lt {s t : List Char} (h : s < t) :
    s.flatMap String.utf8EncodeChar < t.flatMap String.utf8EncodeChar := by
  induction h with
  | @nil c t =>
    rw [List.flatMap_cons]
    obtain ⟨b, bs, hbytes⟩ := List.exists_cons_of_ne_nil (String.utf8EncodeChar_ne_nil (c := c))
    rw [hbytes]
    exact List.nil_lt_cons b _
  | cons _ ih =>
    rw [List.flatMap_cons, List.flatMap_cons]
    exact List.append_left_lt ih
  | rel h =>
    rw [List.flatMap_cons, List.flatMap_cons]
    exact utf8EncodeChar_append_lt h _ _

/-- **The bytes of texts are in the order of the texts.** -/
lemma toUTF8_lt {s t : String} (h : s < t) : s.toUTF8.toList < t.toUTF8.toList := by
  rw [toList_toUTF8, toList_toUTF8]
  exact flatMap_utf8EncodeChar_lt (String.lt_iff.mp h)

/-! ## Lines -/

/-- A text without control characters below 32. -/
def NoControls (s : List Char) : Prop := ∀ c ∈ s, 32 ≤ c.toNat

instance (s : List Char) : Decidable (NoControls s) :=
  List.decidableBAll (fun c : Char => 32 ≤ c.toNat) s

/-- A text has no control characters if neither its first character is one nor one is behind it. -/
lemma NoControls.cons {c : Char} {s : List Char} (hc : 32 ≤ c.toNat) (hs : NoControls s) :
    NoControls (c :: s) :=
  List.forall_mem_cons.mpr ⟨hc, hs⟩

/-- Two texts put together have no control characters if neither has one. -/
lemma NoControls.append {s t : List Char} (hs : NoControls s) (ht : NoControls t) :
    NoControls (s ++ t) :=
  List.forall_mem_append.mpr ⟨hs, ht⟩

/-- A text that is replaced character by character has no control characters if no replacement has
one. -/
lemma NoControls.flatMap {s : List Char} {f : Char → List Char} (h : ∀ c, NoControls (f c)) :
    NoControls (s.flatMap f) := by
  intro x hx
  obtain ⟨c, -, hxc⟩ := List.mem_flatMap.mp hx
  exact h c x hxc

/-- The bytes of a text without control characters are no line ends. -/
lemma NoControls.bytes {s : String} (h : NoControls s.toList) :
    ∀ b ∈ s.toUTF8.toList, b ≠ 10 ∧ b ≠ 13 := by
  intro b hb
  rw [toList_toUTF8, List.mem_flatMap] at hb
  obtain ⟨c, hc, hbc⟩ := hb
  have hnumber := h c hc
  constructor <;>
  · rintro rfl
    have hbyte := toNat_eq_of_mem_utf8EncodeChar hbc (by decide)
    rw [hbyte] at hnumber
    exact absurd hnumber (by decide)

/-- A byte that ends no line belongs to the line under way. -/
lemma byteLinesFrom_of_ne {b : UInt8} (hb : b ≠ 10) (part bs : List UInt8) :
    byteLinesFrom part (b :: bs) = byteLinesFrom (b :: part) bs := by
  rw [byteLinesFrom.eq_def]
  exact if_neg hb

/-- A line goes up to its end; a carriage return before it would belong to the end. -/
lemma byteLinesFrom_line {part line : List UInt8} (hline : ∀ b ∈ line, b ≠ 10)
    (hend : (part.reverse ++ line).getLast? ≠ some 13) (rest : List UInt8) :
    byteLinesFrom part (line ++ 10 :: rest) =
      (part.reverse ++ line) :: byteLinesFrom [] rest := by
  induction line generalizing part with
  | nil =>
    rw [List.append_nil] at hend ⊢
    refine byteLinesFrom.eq_3 part 10 rest ?_
    rintro more rfl
    simp at hend
  | cons b line ih =>
    obtain ⟨hb, hrest⟩ := List.forall_mem_cons.mp hline
    have happend : part.reverse ++ b :: line = (b :: part).reverse ++ line := by simp
    rw [happend] at hend ⊢
    rw [List.cons_append, byteLinesFrom_of_ne hb, ih hrest hend]

/-- A line in front of a line feed is the first line. -/
lemma byteLinesFrom_nil_line {line : List UInt8} (hline : ∀ b ∈ line, b ≠ 10)
    (hend : line.getLast? ≠ some 13) (rest : List UInt8) :
    byteLinesFrom [] (line ++ 10 :: rest) = line :: byteLinesFrom [] rest :=
  @byteLinesFrom_line [] line hline hend rest

/-- What stands up to a line feed is cut into lines for itself. -/
lemma byteLinesFrom_append_feed (part front back : List UInt8) :
    byteLinesFrom part (front ++ 10 :: back) =
      byteLinesFrom part (front ++ [10]) ++ byteLinesFrom [] back := by
  induction front generalizing part with
  | nil =>
    rw [List.nil_append, List.nil_append, byteLinesFrom.eq_def, byteLinesFrom.eq_def part [10]]
    rfl
  | cons b front ih =>
    by_cases hb : b = 10
    · subst hb
      rw [List.cons_append, List.cons_append, byteLinesFrom.eq_def,
        byteLinesFrom.eq_def part (10 :: (front ++ [10]))]
      simp only [if_true, ih, List.cons_append]
    · rw [List.cons_append, List.cons_append, byteLinesFrom_of_ne hb, byteLinesFrom_of_ne hb, ih]

/-- What has no line end is one line, unless it is empty. -/
lemma byteLinesFrom_of_forall_ne {part line : List UInt8} (h : ∀ b ∈ line, b ≠ 10)
    (hne : part.reverse ++ line ≠ []) : byteLinesFrom part line = [part.reverse ++ line] := by
  induction line generalizing part with
  | nil =>
    rw [List.append_nil] at hne ⊢
    rw [byteLinesFrom.eq_def]
    exact if_neg (by simpa using hne)
  | cons b line ih =>
    obtain ⟨hb, hrest⟩ := List.forall_mem_cons.mp h
    have happend : part.reverse ++ b :: line = (b :: part).reverse ++ line := by simp
    rw [happend] at hne ⊢
    rw [byteLinesFrom_of_ne hb, ih hrest hne]

/-- A line without a line feed behind it is the only line. -/
lemma byteLinesFrom_nil_of_forall_ne {line : List UInt8} (h : ∀ b ∈ line, b ≠ 10)
    (hne : line ≠ []) : byteLinesFrom [] line = [line] :=
  @byteLinesFrom_of_forall_ne [] line h hne

/-- The bytes behind the last line feed. -/
def openLine (bytes : List UInt8) : List UInt8 := bytes.rtakeWhile (· != 10)

/-- The line that is still open has no line feed. -/
lemma forall_mem_openLine (bytes : List UInt8) : ∀ b ∈ openLine bytes, b ≠ 10 := by
  intro b hb
  exact bne_iff_ne.mp (List.mem_rtakeWhile_imp (p := (· != 10)) hb)

/-- **Up to the last line feed** the lines are the same, whatever is written behind. -/
lemma exists_byteLinesFrom_append (bytes : List UInt8) :
    ∃ lines, ∀ more,
      byteLinesFrom [] (bytes ++ more) = lines ++ byteLinesFrom [] (openLine bytes ++ more) := by
  have hsplit : bytes.rdropWhile (· != 10) ++ openLine bytes = bytes :=
    List.rdropWhile_append_rtakeWhile
  rcases (bytes.rdropWhile (· != 10)).eq_nil_or_concat with hnil | ⟨front, b, hfront⟩
  · refine ⟨[], fun more => ?_⟩
    rw [hnil, List.nil_append] at hsplit
    rw [List.nil_append, hsplit]
  · rw [List.concat_eq_append] at hfront
    have hb : b = 10 := by
      have hlast := List.rdropWhile_last_not (· != 10) bytes (by simp [hfront])
      simpa [hfront] using hlast
    refine ⟨byteLinesFrom [] (front ++ [10]), fun more => ?_⟩
    have hbytes : bytes ++ more = front ++ 10 :: (openLine bytes ++ more) := by
      conv_lhs => rw [← hsplit, hfront, hb]
      simp
    rw [hbytes, byteLinesFrom_append_feed]

/-- Texts, one to a line. -/
def asLines (lines : List String) : String := String.join (lines.map (· ++ "\n"))

/-- The bytes of lines begin with those of the first line and a line feed. -/
lemma toList_asLines_cons (line : String) (lines : List String) :
    (asLines (line :: lines)).toUTF8.toList =
      line.toUTF8.toList ++ 10 :: (asLines lines).toUTF8.toList := by
  have hcons : (asLines (line :: lines)).toList =
      line.toList ++ '\n' :: (asLines lines).toList := by
    simp [asLines, String.toList_join]
  rw [toList_toUTF8, hcons, List.flatMap_append, List.flatMap_cons, ← toList_toUTF8,
    ← toList_toUTF8]
  rfl

/-- **What is written one to a line is found on the lines.** -/
lemma byteLines_asLines {lines : List String} (h : ∀ line ∈ lines, NoControls line.toList) :
    byteLines (asLines lines).toUTF8 = lines.map (·.toUTF8.toList) := by
  rw [byteLines]
  induction lines with
  | nil =>
    rw [toList_toUTF8]
    rfl
  | cons line lines ih =>
    obtain ⟨hline, hlines⟩ := List.forall_mem_cons.mp h
    have hend : line.toUTF8.toList.getLast? ≠ some 13 := fun hlast =>
      (hline.bytes 13 (List.mem_of_getLast? hlast)).2 rfl
    rw [toList_asLines_cons, byteLinesFrom_nil_line (fun b hb => (hline.bytes b hb).1) hend,
      ih hlines, List.map_cons]

end CodeCatalog.Text
