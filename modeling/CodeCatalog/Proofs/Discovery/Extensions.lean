import CodeCatalog.Proofs.Discovery.Relocation
import CodeCatalog.Proofs.Config.Tables

/-!
# Names that end in an extension

A file is a source file if the part of its name behind the last dot is one of the extensions and
something stands in front of that dot. So its name ends in a dot and the extension; but not every
such name is accepted: nothing may stand in front of the dot, or the extension may have a dot of its
own.

## Main definitions

* `CodeCatalog.Path.EndsIn` — names that end in a dot and an extension.

## Main results

* `CodeCatalog.Path.extensionOf?_eq_some_iff` — the extension of a name.
* `CodeCatalog.DiscoveryOptions.accepts_iff_extension` — files are accepted by their extension.
* `CodeCatalog.DiscoveryOptions.accepts_iff_endsIn` — which of the names with a wanted end are
  accepted, and that not all of them are.
-/

namespace CodeCatalog

/-! ## The end of a name -/

namespace Path

/-- A name ends in a dot and an extension. Nothing else is asked: there may be nothing in front of
the dot, and the extension may have dots itself. -/
def EndsIn (name ext : String) : Prop := '.' :: ext.toList <:+ name.toList

instance (name ext : String) : Decidable (EndsIn name ext) :=
  inferInstanceAs (Decidable (_ <:+ _))

variable {name ext : String}

/-- A dot in front of an extension is its first character. -/
lemma toList_dot_append (ext : String) : ("." ++ ext).toList = '.' :: ext.toList := by
  rw [String.toList_append]
  rfl

/-- A name that is only a dot and an extension ends in it. -/
lemma endsIn_dot_append (ext : String) : EndsIn ("." ++ ext) ext := by
  rw [EndsIn, toList_dot_append]

/-- Something stands in front of the dot unless the name is the dot and the extension. -/
lemma endsIn_and_ne_iff :
    EndsIn name ext ∧ name ≠ "." ++ ext ↔
      ∃ front, front ≠ [] ∧ name.toList = front ++ '.' :: ext.toList := by
  rw [ne_eq, ← String.toList_inj, toList_dot_append]
  constructor
  · rintro ⟨⟨front, hfront⟩, hne⟩
    refine ⟨front, fun hnil => hne ?_, hfront.symm⟩
    rw [← hfront, hnil, List.nil_append]
  · rintro ⟨front, hne, hname⟩
    refine ⟨⟨front, hname.symm⟩, fun hdot => hne ?_⟩
    exact List.append_left_eq_self.mp (hname.symm.trans hdot)

/-- A name without a dot has no extension. -/
lemma extensionOf?_of_not_mem (h : '.' ∉ name.toList) : extensionOf? name = none := by
  have htake : name.toList.reverse.takeWhile (· != '.') = name.toList.reverse := by
    rw [List.takeWhile_eq_self_iff]
    intro c hc
    rw [bne_iff_ne]
    rintro rfl
    exact h (List.mem_reverse.mp hc)
  simp only [extensionOf?, htake, List.drop_length]

/-- A name has the part behind its last dot as extension if something stands in front. -/
lemma extensionOf?_of_append {front after : List Char} (hafter : '.' ∉ after)
    (hname : name.toList = front ++ '.' :: after) :
    extensionOf? name = if front = [] then none else some (String.ofList after) := by
  have hback : name.toList.reverse = after.reverse ++ '.' :: front.reverse := by simp [hname]
  have htake : name.toList.reverse.takeWhile (· != '.') = after.reverse := by
    rw [hback, List.takeWhile_append_of_pos, List.takeWhile_cons_of_neg (by simp),
      List.append_nil]
    intro c hc
    rw [bne_iff_ne]
    rintro rfl
    exact hafter (List.mem_reverse.mp hc)
  simp only [extensionOf?, htake]
  rw [hback, List.drop_left, List.reverse_reverse]
  cases front using List.reverseRecOn with
  | nil => rfl
  | append_singleton front c => simp

/-- **The extension of a name** is what it ends in behind a dot, if that has no dot itself and
something stands in front of the dot. -/
lemma extensionOf?_eq_some_iff :
    extensionOf? name = some ext ↔ (EndsIn name ext ∧ name ≠ "." ++ ext) ∧ '.' ∉ ext.toList := by
  rw [endsIn_and_ne_iff]
  constructor
  · intro h
    by_cases hdot : '.' ∈ name.toList.reverse
    · obtain ⟨back, front, hback, hafter⟩ := List.eq_append_cons_of_mem hdot
      have hname : name.toList = front.reverse ++ '.' :: back.reverse := by
        rw [← List.reverse_reverse name.toList, hback]
        simp
      have hafter' : '.' ∉ back.reverse := fun hmem => hafter (List.mem_reverse.mp hmem)
      rw [extensionOf?_of_append hafter' hname] at h
      split_ifs at h with hnil
      obtain rfl := Option.some.inj h
      rw [String.toList_ofList]
      exact ⟨⟨front.reverse, hnil, hname⟩, hafter'⟩
    · rw [extensionOf?_of_not_mem fun hmem => hdot (List.mem_reverse.mpr hmem)] at h
      cases h
  · rintro ⟨⟨front, hne, hname⟩, hdot⟩
    rw [extensionOf?_of_append hdot hname, if_neg hne, String.ofList_toList]

/-- The name of a file in a directory is the name of its path. -/
lemma fileName?_join (base : String) (hname : IsFileName name) :
    fileName? (join base name) = some name := by
  have hlast := fileName?_below base (List.forall_mem_singleton.mpr hname)
    (List.cons_ne_nil name [])
  rwa [below_cons, below_nil, List.getLast?_singleton] at hlast

/-- A dot and an extension are a name for a file. -/
lemma isFileName_dot_append (hempty : ext ≠ "") (hdot : ext.toList.head? ≠ some '.')
    (hslash : '/' ∉ ext.toList) : IsFileName ("." ++ ext) where
  ne_empty := by simp
  noSlash := by simpa using hslash
  ne_dot := by
    intro h
    rw [← String.toList_inj, toList_dot_append] at h
    exact hempty (String.toList_inj.mp (List.cons.inj h).2)
  ne_dots := by
    intro h
    rw [← String.toList_inj, toList_dot_append] at h
    exact hdot (congrArg List.head? (List.cons.inj h).2)

end Path

/-! ## Accepted files -/

namespace DiscoveryOptions

open CodeCatalog.Path (EndsIn IsFileName)

variable {options : DiscoveryOptions} {root path name : String}

/-- Where nothing is left out, files are accepted by their extension. -/
lemma accepts_iff_extension (hpatterns : options.excludePatterns = [])
    (hname : Path.fileName? path = some name) :
    options.accepts root path ↔ ∃ ext ∈ options.extensions,
      (EndsIn name ext ∧ name ≠ "." ++ ext) ∧ '.' ∉ ext.toList := by
  simp only [← Path.extensionOf?_eq_some_iff]
  rw [accepts, Path.extension?, hname, Option.bind_some, hpatterns]
  cases Path.extensionOf? name with
  | none => simp
  | some ext => simp [PathPattern.matchesAny]

/-- **Some names with a wanted end are not accepted**: of the names that are nothing but a dot and
an extension at least one, and that in every directory.

**Proof sketch.** Induction on the length of the extension. If its name is accepted, then for
another extension that the name ends in, which is shorter. -/
lemma exists_not_accepts (hpatterns : options.excludePatterns = [])
    (hextensions : ∀ ext ∈ options.extensions, ext ≠ "" ∧ ext.toList.head? ≠ some '.')
    {ext : String} (hext : ext ∈ options.extensions) (hslash : '/' ∉ ext.toList) :
    ∃ name, IsFileName name ∧ (∃ ext ∈ options.extensions, name = "." ++ ext) ∧
      ∀ root, options.accepts root (Path.join root name) = false := by
  induction hlength : ext.toList.length using Nat.strong_induction_on generalizing ext with
  | _ n ih =>
    obtain ⟨hempty, hdot⟩ := hextensions ext hext
    have hname := Path.isFileName_dot_append hempty hdot hslash
    by_cases hshorter : ∃ ext' ∈ options.extensions, '.' :: ext'.toList <:+ ext.toList
    · obtain ⟨ext', hext', hsuffix⟩ := hshorter
      have hlt := hsuffix.length_le
      rw [List.length_cons, hlength] at hlt
      apply ih _ hlt hext' _ rfl
      intro hmem
      exact hslash (hsuffix.subset (List.mem_cons_of_mem _ hmem))
    · refine ⟨_, hname, ⟨ext, hext, rfl⟩, fun root => ?_⟩
      rw [Bool.eq_false_iff, ne_eq,
        accepts_iff_extension hpatterns (Path.fileName?_join root hname)]
      rintro ⟨ext', hext', ⟨hends, hne⟩, -⟩
      rw [EndsIn, Path.toList_dot_append] at hends
      rcases List.suffix_cons_iff.mp hends with heq | hsuffix
      · rw [← Path.toList_dot_append, ← Path.toList_dot_append] at heq
        exact hne (String.toList_inj.mp heq.symm)
      · exact hshorter ⟨ext', hext', hsuffix⟩

/-- **Which names are accepted.** With valid settings that leave nothing out, a file is accepted
exactly if its name ends in a dot and one of the extensions, with something in front of the dot and
no dot in the extension. So not every name with a wanted end is accepted, whatever the extensions
are, as long as names can end in one of them at all: for one of them the name that is nothing but
the dot and the extension is not. -/
theorem accepts_iff_endsIn {c : Config} (hvalid : c.validate = .ok ())
    (hpatterns : c.discovery.excludePatterns = []) :
    (∀ root path name, Path.fileName? path = some name →
      (c.discovery.accepts root path ↔ ∃ ext ∈ c.discovery.extensions,
        (EndsIn name ext ∧ name ≠ "." ++ ext) ∧ '.' ∉ ext.toList)) ∧
    ((∃ ext ∈ c.discovery.extensions, '/' ∉ ext.toList) →
      ∃ name, IsFileName name ∧ (∃ ext ∈ c.discovery.extensions, EndsIn name ext) ∧
        ∀ root, c.discovery.accepts root (Path.join root name) = false) := by
  refine ⟨fun root path name hname => accepts_iff_extension hpatterns hname, ?_⟩
  rintro ⟨ext, hext, hslash⟩
  obtain ⟨-, hdots, -⟩ := Config.validate_eq_ok_iff.mp hvalid
  have hextensions : ∀ ext ∈ c.discovery.extensions, ext ≠ "" ∧ ext.toList.head? ≠ some '.' := by
    simpa using List.find?_eq_none.mp hdots
  obtain ⟨name, hname, ⟨ext, hext, rfl⟩, haccepts⟩ :=
    exists_not_accepts hpatterns hextensions hext hslash
  exact ⟨_, hname, ⟨ext, hext, Path.endsIn_dot_append ext⟩, haccepts⟩

/-- Settings with two extensions, one of them with a dot of its own. -/
def dottedSettings : Config :=
  { Config.default ⟨[]⟩ with
    discovery := { DiscoveryOptions.default with extensions := ["py", "d.ts"] } }

/-- Of three files whose names end in an extension only the first is accepted: the name of the
second has nothing in front of the dot, and the extension of the third has a dot. -/
theorem accepts_dottedSettings :
    dottedSettings.validate = .ok () ∧ dottedSettings.discovery.excludePatterns = [] ∧
      (EndsIn "m.py" "py" ∧ dottedSettings.discovery.accepts "src" "src/m.py") ∧
      (EndsIn ".py" "py" ∧ ¬ dottedSettings.discovery.accepts "src" "src/.py") ∧
      (EndsIn "m.d.ts" "d.ts" ∧ ¬ dottedSettings.discovery.accepts "src" "src/m.d.ts") := by
  have hvalid : dottedSettings.validate = .ok () := by decide
  obtain ⟨haccepts, -⟩ := accepts_iff_endsIn hvalid rfl
  refine ⟨hvalid, rfl, ⟨by decide, ?_⟩, ⟨by decide, ?_⟩, ⟨by decide, ?_⟩⟩
  · rw [haccepts "src" "src/m.py" "m.py" (by decide)]
    decide
  · rw [haccepts "src" "src/.py" ".py" (by decide)]
    decide
  · rw [haccepts "src" "src/m.d.ts" "m.d.ts" (by decide)]
    decide

end DiscoveryOptions

end CodeCatalog
