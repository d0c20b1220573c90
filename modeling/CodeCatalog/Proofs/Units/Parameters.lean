import Mathlib.Data.List.DropRight
import Mathlib.Data.List.Forall2
import Mathlib.Tactic.Lemma
import CodeCatalog.Units.Extract

/-!
# Positional parameters

A parameter list is read from left to right. A slash throws away the names gathered so far, a star
ends the reading. What is left are the names between the last slash before the first star, and
that star.

## Main definitions

* `CodeCatalog.Extraction.ParameterForm` — what a parameter is for this reading.
* `CodeCatalog.Extraction.Context.HasForm` — the forms of the parameters of the grammar.
* `CodeCatalog.Extraction.positionalNames` — the names that a sequence of forms leaves.

## Main results

* `CodeCatalog.Extraction.Context.gatherParameters_eq` — the loop over the parameters, from any
  point on.
* `CodeCatalog.Extraction.Context.positionalParameters_of_hasForm` — the names of a parameter
  list.
-/

namespace CodeCatalog.Extraction

open Syntax

/-! ## Forms of parameters -/

/-- What a parameter is, as far as the names of the positional parameters are concerned. -/
inductive ParameterForm where
  /-- A parameter that may be given by position, with its name. -/
  | named (name : String)
  /-- A parameter without a name of its own, or no parameter at all. -/
  | nameless
  /-- The end of the parameters that are positional only. -/
  | slash
  /-- The end of the parameters that may be given by position. -/
  | star
deriving Repr, DecidableEq, Inhabited

/-- The name of a parameter that has one. -/
def ParameterForm.name? : ParameterForm → Option String
  | .named name => some name
  | _ => none

/-- Whether a node stands for several arguments: `*args` or `**kwargs`. -/
def IsSplat (n : Node) : Prop := n.kind = "list_splat_pattern" ∨ n.kind = "dictionary_splat_pattern"

/-- Whether a parameter has a default. -/
def HasDefault (n : Node) : Prop :=
  n.kind = "default_parameter" ∨ n.kind = "typed_default_parameter"

/-- The forms of the children of a parameter list, as the grammar has them. -/
inductive Context.HasForm (c : Context) (p : Node) : ParameterForm → Prop
  | plain (hkind : p.kind = "identifier") : HasForm c p (.named (c.textOf p))
  | typed {name : Node} (hkind : p.kind = "typed_parameter")
      (hfirst : p.namedChildren.head? = some name) (hname : name.kind = "identifier") :
      HasForm c p (.named (c.textOf name))
  | typedSplat {splat : Node} (hkind : p.kind = "typed_parameter")
      (hfirst : p.namedChildren.head? = some splat) (hsplat : IsSplat splat) : HasForm c p .star
  | defaulted {name : Node} (hkind : HasDefault p) (hfield : p.childByField? "name" = some name)
      (hname : name.kind = "identifier") : HasForm c p (.named (c.textOf name))
  | defaultedTuple {tuple : Node} (hkind : HasDefault p)
      (hfield : p.childByField? "name" = some tuple) (htuple : tuple.kind = "tuple_pattern") :
      HasForm c p .nameless
  | tuple (hkind : p.kind = "tuple_pattern") : HasForm c p .nameless
  | splat (hkind : IsSplat p) : HasForm c p .star
  | keywordSeparator (hkind : p.kind = "keyword_separator") : HasForm c p .star
  | positionalSeparator (hkind : p.kind = "positional_separator") : HasForm c p .slash
  | extra (hkind : p.kind = "comment" ∨ p.kind = "line_continuation") : HasForm c p .nameless

/-- The form in which any node is read among parameters. -/
def Context.parameterForm (c : Context) (p : Node) : ParameterForm :=
  if p.kind == "identifier" then .named (c.textOf p)
  else if p.kind == "typed_parameter" then
    match p.namedChildren.head? with
    | some first => if first.kind == "identifier" then .named (c.textOf first) else .star
    | none => .star
  else if p.kind == "default_parameter" || p.kind == "typed_default_parameter" then
    match p.childByField? "name" with
    | some name => if name.kind == "identifier" then .named (c.textOf name) else .nameless
    | none => .nameless
  else if p.kind == "positional_separator" then .slash
  else if p.kind == "list_splat_pattern" || p.kind == "dictionary_splat_pattern" ||
      p.kind == "keyword_separator" then .star
  else .nameless

/-- Two nodes, of two files, that are read as the same word: they are of one kind, and names have
the same text. -/
structure Context.SameWord (c c' : Context) (n m : Node) : Prop where
  kind : m.kind = n.kind
  text : n.kind = "identifier" → c'.textOf m = c.textOf n

/-- What is read as the same word gives the same where only names give something. -/
lemma Context.SameWord.ite_eq {c c' : Context} {n m : Node} (h : c.SameWord c' n m)
    (other : ParameterForm) :
    (if m.kind == "identifier" then .named (c'.textOf m) else other) =
      if n.kind == "identifier" then .named (c.textOf n) else other := by
  rw [h.kind]
  split
  · rename_i hname
    rw [h.text (by simpa using hname)]
  · rfl

/-- Parameters have the same form if they, their first parts and their names are read as the
same. -/
lemma Context.parameterForm_congr {c c' : Context} {n m : Node} (h : c.SameWord c' n m)
    (hfirst : n.kind = "typed_parameter" →
      Option.Rel (c.SameWord c') n.namedChildren.head? m.namedChildren.head?)
    (hname : HasDefault n →
      Option.Rel (c.SameWord c') (n.childByField? "name") (m.childByField? "name")) :
    c'.parameterForm m = c.parameterForm n := by
  unfold parameterForm
  rw [h.ite_eq, h.kind]
  split
  · rfl
  split
  · rename_i htyped
    have hfirst := hfirst (by simpa using htyped)
    generalize n.namedChildren.head? = x, m.namedChildren.head? = y at hfirst
    cases hfirst with
    | none => rfl
    | some hword => exact hword.ite_eq .star
  split
  · rename_i hdefault
    have hname := hname (by simpa [HasDefault] using hdefault)
    generalize n.childByField? "name" = x, m.childByField? "name" = y at hname
    cases hname with
    | none => rfl
    | some hword => exact hword.ite_eq .nameless
  · rfl

/-- The parameters of the grammar are read in their forms. -/
lemma Context.HasForm.eq {c : Context} {p : Node} {form : ParameterForm} (h : c.HasForm p form) :
    c.parameterForm p = form := by
  unfold parameterForm
  cases h with
  | plain hkind => simp [hkind]
  | typed hkind hfirst hname => simp [hkind, hfirst, hname]
  | typedSplat hkind hfirst hsplat => rcases hsplat with h | h <;> simp [hkind, hfirst, h]
  | defaulted hkind hfield hname => rcases hkind with h | h <;> simp [h, hfield, hname]
  | defaultedTuple hkind hfield htuple => rcases hkind with h | h <;> simp [h, hfield, htuple]
  | tuple hkind => simp [hkind]
  | splat hkind => rcases hkind with h | h <;> simp [h]
  | keywordSeparator hkind => simp [hkind]
  | positionalSeparator hkind => simp [hkind]
  | extra hkind => rcases hkind with h | h <;> simp [h]

/-! ## The loop over the parameters -/

/-- The names behind the last slash. -/
def namesBehindSlash (forms : List ParameterForm) : List String :=
  (forms.rtakeWhile (· ≠ .slash)).filterMap ParameterForm.name?

/-- The names of the positional parameters: those behind the last slash before the first star. -/
def positionalNames (forms : List ParameterForm) : List String :=
  namesBehindSlash (forms.takeWhile (· ≠ .star))

/-- A slash at the end takes the names before it away, and any other form adds its name. -/
lemma namesBehindSlash_concat (forms : List ParameterForm) (form : ParameterForm) :
    namesBehindSlash (forms ++ [form]) =
      if form = .slash then [] else namesBehindSlash forms ++ form.name?.toList := by
  unfold namesBehindSlash
  split
  · rename_i hslash
    rw [List.rtakeWhile_concat_neg _ _ _ (by simp [hslash]), List.filterMap_nil]
  · rename_i hne
    rw [List.rtakeWhile_concat_pos _ _ _ (by simp [hne]), List.filterMap_append]
    cases hname : form.name? <;> simp [hname]

/-- What comes behind a star is not read. -/
lemma positionalNames_append_star (before behind : List ParameterForm) :
    positionalNames (before ++ .star :: behind) = positionalNames before := by
  unfold positionalNames
  by_cases hstar : ∀ form ∈ before, decide (form ≠ .star) = true
  · rw [List.takeWhile_append_of_pos hstar, List.takeWhile_cons_of_neg (by simp),
      List.append_nil, List.takeWhile_eq_self_iff.mpr hstar]
  · have hne : (before.takeWhile (· ≠ .star)).length ≠ before.length := by
      intro hlength
      have hself := (List.takeWhile_prefix (l := before) (· ≠ .star)).eq_of_length hlength
      exact hstar (List.takeWhile_eq_self_iff.mp hself)
    rw [List.takeWhile_append, if_neg hne]

namespace Context

variable (c : Context)

/-- The step of the loop, by the form of the parameter. -/
lemma gatherParameters_cons (names : List String) (p : Node) (ps : List Node) :
    c.gatherParameters names (p :: ps) =
      match c.parameterForm p with
      | .named name => c.gatherParameters (names ++ [name]) ps
      | .nameless => c.gatherParameters names ps
      | .slash => c.gatherParameters [] ps
      | .star => names := by
  rw [gatherParameters, parameterForm]
  by_cases hplain : p.kind = "identifier"
  · simp [hplain]
  by_cases htyped : p.kind = "typed_parameter"
  · cases hfirst : p.namedChildren.head? with
    | none => simp [htyped]
    | some first => by_cases hname : first.kind = "identifier" <;> simp [htyped, hname]
  by_cases hdefault : HasDefault p
  · have hkind : (p.kind == "default_parameter" || p.kind == "typed_default_parameter") = true := by
      simpa [HasDefault] using hdefault
    cases hfield : p.childByField? "name" with
    | none => simp [hplain, htyped, hkind]
    | some name => by_cases hname : name.kind = "identifier" <;>
        simp [hplain, htyped, hkind, hname]
  have hkind : (p.kind == "default_parameter" || p.kind == "typed_default_parameter") = false := by
    simpa [HasDefault] using hdefault
  by_cases hslash : p.kind = "positional_separator"
  · simp [hslash]
  by_cases hstar : (p.kind == "list_splat_pattern" || p.kind == "dictionary_splat_pattern" ||
      p.kind == "keyword_separator") = true
  · simp [hplain, htyped, hkind, hslash, hstar]
  · simp [hplain, htyped, hkind, hslash, hstar]

/-- **The loop over the parameters**: if the names gathered so far are those behind the last slash
of the forms that have been read, then the loop gives the names behind the last slash of these and
the forms up to the next star.

**Proof sketch.** Induction on the parameters, with the forms read so far generalized. A name goes
to the end of the names gathered, a slash leaves none of them, a star ends both sides. -/
lemma gatherParameters_eq (read : List ParameterForm) (ps : List Node) :
    c.gatherParameters (namesBehindSlash read) ps =
      namesBehindSlash (read ++ (ps.map c.parameterForm).takeWhile (· ≠ .star)) := by
  induction ps generalizing read with
  | nil => simp [gatherParameters]
  | cons p ps ih =>
    have hread := ih (read ++ [c.parameterForm p])
    rw [gatherParameters_cons, List.map_cons]
    rw [namesBehindSlash_concat] at hread
    cases hform : c.parameterForm p with
    | star => simp
    | _ => simpa [hform, ParameterForm.name?] using hread

/-- The names of the positional parameters depend on the forms of the parameters only. -/
lemma gatherParameters_nil (ps : List Node) :
    c.gatherParameters [] ps = positionalNames (ps.map c.parameterForm) :=
  c.gatherParameters_eq [] ps

/-- Parameters that are passed over can be left out. -/
lemma gatherParameters_filter {keep : Node → Bool} {ps : List Node}
    (h : ∀ p ∈ ps, ¬ keep p → c.parameterForm p = .nameless) (names : List String) :
    c.gatherParameters names (ps.filter keep) = c.gatherParameters names ps := by
  induction ps generalizing names with
  | nil => rfl
  | cons p ps ih =>
    obtain ⟨hp, hps⟩ := List.forall_mem_cons.mp h
    by_cases hkeep : keep p
    · rw [List.filter_cons_of_pos hkeep, gatherParameters_cons, gatherParameters_cons]
      simp only [ih hps]
    · rw [List.filter_cons_of_neg hkeep, ih hps, gatherParameters_cons, hp hkeep]

/-- Parameters with the same forms have the same names, also in two files. -/
lemma gatherParameters_congr {c c' : Context} {ps qs : List Node}
    (h : List.Forall₂ (fun p q => c'.parameterForm q = c.parameterForm p) ps qs) :
    c'.gatherParameters [] qs = c.gatherParameters [] ps := by
  have hforms : List.Forall₂ (· = ·) (ps.map c.parameterForm) (qs.map c'.parameterForm) := by
    rw [List.forall₂_map_left_iff, List.forall₂_map_right_iff]
    exact h.imp fun _ _ => Eq.symm
  rw [List.forall₂_eq_eq_eq] at hforms
  rw [gatherParameters_nil, gatherParameters_nil, hforms]

/-- **The names of the positional parameters**: for every parameter list, whatever the order and
the number of its parameters, the names are those of the plain, typed and defaulted parameters
behind the last slash before the first star, in order. Nothing behind a star matters.

**Proof sketch.** The parameters of the grammar are read in their forms (`HasForm.eq`), and
`gatherParameters_nil` says which names these leave. -/
theorem positionalParameters_of_hasForm (parameters : Node) (forms : List ParameterForm)
    (h : List.Forall₂ c.HasForm parameters.namedChildren forms) :
    c.positionalParameters parameters =
        ((forms.takeWhile (· ≠ .star)).rtakeWhile (· ≠ .slash)).filterMap ParameterForm.name? ∧
      ∀ before star behind, parameters.namedChildren = before ++ star :: behind →
        c.HasForm star .star →
          c.positionalParameters parameters = c.gatherParameters [] before := by
  have hforms : parameters.namedChildren.map c.parameterForm = forms := by
    have heq := List.forall₂_map_left_iff.mpr (h.imp fun _ _ hform => hform.eq)
    rwa [List.forall₂_eq_eq_eq] at heq
  refine ⟨?_, fun before star behind hsplit hstar => ?_⟩
  · rw [positionalParameters, gatherParameters_nil, hforms]
    rfl
  · rw [positionalParameters, hsplit, gatherParameters_nil, gatherParameters_nil, List.map_append,
      List.map_cons, hstar.eq, positionalNames_append_star]

end Context

/-! ### All kinds of parameters -/

/-- A name of one letter at a column of the first line. -/
def letterAt (column : Nat) (field : Option String) : Node :=
  .mk { kind := "identifier", field, startByte := column, endByte := column + 1
        start := ⟨0, column⟩, stop := ⟨0, column + 1⟩ } []

/-- A part of a parameter list with children. -/
def partOf (kind : String) (children : List Node) : Node :=
  .mk { kind, startByte := 0, endByte := 0, start := ⟨0, 0⟩, stop := ⟨0, 0⟩ } children

/-- A parameter list: two slashes before the first star, a star with a type, and a slash and a
name behind it. -/
def manyParameters : Node :=
  partOf "parameters"
    [letterAt 0 none, partOf "positional_separator" [], letterAt 1 none, partOf "comment" [],
      partOf "positional_separator" [], partOf "typed_parameter" [letterAt 2 none],
      partOf "tuple_pattern" [letterAt 3 none],
      partOf "default_parameter" [letterAt 4 (some "name")],
      partOf "typed_parameter" [partOf "list_splat_pattern" [letterAt 5 none]],
      partOf "positional_separator" [], letterAt 6 none]

/-- Only the parameter with a type and the one with a default are left. -/
theorem manyParameters_positional :
    ∃ forms, List.Forall₂ (Context.ofFile "a.py" "abcdefg").HasForm manyParameters.namedChildren
        forms ∧
      (Context.ofFile "a.py" "abcdefg").positionalParameters manyParameters = ["c", "e"] := by
  let c := Context.ofFile "a.py" "abcdefg"
  have hforms : List.Forall₂ c.HasForm manyParameters.namedChildren
      [.named (c.textOf (letterAt 0 none)), .slash, .named (c.textOf (letterAt 1 none)),
        .nameless, .slash, .named (c.textOf (letterAt 2 none)), .nameless,
        .named (c.textOf (letterAt 4 (some "name"))), .star, .slash,
        .named (c.textOf (letterAt 6 none))] :=
    .cons (.plain rfl) <| .cons (.positionalSeparator rfl) <| .cons (.plain rfl) <|
      .cons (.extra (Or.inl rfl)) <| .cons (.positionalSeparator rfl) <|
      .cons (.typed rfl rfl rfl) <| .cons (.tuple rfl) <|
      .cons (.defaulted (Or.inl rfl) rfl rfl) <|
      .cons (.typedSplat rfl rfl (Or.inl rfl)) <| .cons (.positionalSeparator rfl) <|
      .cons (.plain rfl) .nil
  refine ⟨_, hforms, ?_⟩
  rw [(c.positionalParameters_of_hasForm manyParameters _ hforms).1]
  decide

end CodeCatalog.Extraction
