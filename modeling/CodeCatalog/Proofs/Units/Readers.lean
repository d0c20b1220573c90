import CodeCatalog.Proofs.Units.Images

/-!
# Names in parentheses

Targets of assignments, decorators and base classes are names, possibly in parentheses. A reader of
names goes down through the parentheses. It passes over comments, but it takes a line continuation
for something that stands in the parentheses, and may stop there.

## Main definitions

* `CodeCatalog.NameReader` — a reader of names: what it reads in parentheses, and what it would
  read there without line continuations.
* `CodeCatalog.NameReader.Way` — the parentheses on the way to a name.
* `CodeCatalog.NameReader.Obstructed` — a name behind parentheses in which a line continuation
  stops the reader.
* `CodeCatalog.targetReader`, `CodeCatalog.expressionReader` — the readers of targets, and of
  decorators and base classes.

## Main results

* `CodeCatalog.NameReader.way_inside_iff` — a name is found if no line continuation is on the way.
* `CodeCatalog.NameReader.Reads.of_sheds` — a name that is found is found without some line
  continuations.
* `CodeCatalog.NameReader.Reads.eq_of_sheds` — without obstructions nothing else is found then.
* `CodeCatalog.NameReader.Reads.of_obstructed` — an obstructed name is found only without them.
-/

namespace CodeCatalog

open Syntax Syntax.Node

/-! ## Line continuations -/

/-- A tree, and what is left of it without some line continuations. If it is cleared, there are
none left below it. -/
abbrev Syntax.Node.Continues (cleared : Prop) (n m : Node) : Prop :=
  Sheds "line_continuation" (fun d => cleared → ∀ c ∈ d.children, c.kind ≠ "line_continuation") n m

section Content

variable {cleared : Prop} {n m : Node}

/-- Clearing line continuations inside a node makes it neither more nor less of one. -/
lemma Syntax.Node.Continues.isContinuation_eq (h : Continues cleared n m) :
    m.isContinuation = n.isContinuation := by
  rw [isContinuation, h.kind_eq, isContinuation]

/-- Named children of kinds other than line continuations are left. -/
lemma Syntax.Node.Continues.forall₂_namedChildren (h : Continues cleared n m)
    (keep : String → Bool) (hkeep : keep "line_continuation" = false) :
    List.Forall₂ (Continues cleared) (n.namedChildren.filter (keep ·.kind))
      (m.namedChildren.filter (keep ·.kind)) := by
  have hnamed (n : Node) : n.namedChildren.filter (keep ·.kind) =
      n.children.filter fun c => keep c.info.kind && c.info.named := by
    rw [namedChildren, List.filter_filter]
    rfl
  rw [hnamed, hnamed]
  refine h.forall₂_filter (fun i => keep i.kind && i.named) fun c _ hkind => ?_
  have hcontinuation : c.info.kind = "line_continuation" := hkind
  rw [hcontinuation, hkeep, Bool.false_and]

/-- What is in a node is left there without line continuations. -/
lemma Syntax.Node.Continues.content (h : Continues cleared n m) :
    List.Forall₂ (Continues cleared) n.content m.content :=
  h.forall₂_namedChildren (fun kind => !(kind == "comment") && !(kind == "line_continuation")) rfl

end Content

/-! ## Readers -/

/-- A way to read names through parentheses. -/
structure NameReader where
  /-- The kinds of nodes that are read as parentheses. -/
  opens : String → Bool
  /-- What is read in parentheses. -/
  inside? : Node → Option Node
  /-- What is read in them, if line continuations are passed over. -/
  content? : Node → Option Node
  /-- Whether a line continuation stops the reader in them. -/
  Blocked : Node → Prop
  mem_children : ∀ {n inner}, inside? n = some inner → inner ∈ n.children
  not_identifier : opens "identifier" = false
  not_continuation : opens "line_continuation" = false
  inside_iff : ∀ n inner, (inside? n = some inner ∧ ¬ inner.isContinuation) ↔
    content? n = some inner ∧ ¬ Blocked n
  content_rel : ∀ {cleared n m}, Continues cleared n m →
    Option.Rel (Continues cleared) (content? n) (content? m)
  blocked_of_continues : ∀ {cleared n m}, Continues cleared n m → Blocked m → Blocked n
  exists_continuation : ∀ n, Blocked n → ∃ c ∈ n.children, c.isContinuation

namespace NameReader

/-- The nodes of the parentheses on the way to a name, from the outside to the inside. -/
inductive Way (r : NameReader) (step? : Node → Option Node) : List Node → Node → Node → Prop
  | name {n : Node} (hkind : n.kind = "identifier") : Way r step? [] n n
  | inside {n inner name : Node} {rings : List Node} (hopens : r.opens n.kind)
      (hinner : step? n = some inner) (h : Way r step? rings inner name) :
      Way r step? (n :: rings) n name

/-- Whether the reader finds a name. -/
def Finds (r : NameReader) (n name : Node) : Prop := ∃ rings, r.Way r.inside? rings n name

/-- Whether there is a name, but a line continuation stops the reader on the way. -/
def Obstructed (r : NameReader) (n : Node) : Prop :=
  ∃ rings name, r.Way r.content? rings n name ∧ ∃ ring ∈ rings, r.Blocked ring

section Way

variable {r : NameReader} {step? : Node → Option Node} {rings : List Node} {n m name : Node}
  {cleared : Prop}

/-- No way begins with a line continuation. -/
lemma Way.not_isContinuation (h : r.Way step? rings n name) : ¬ n.isContinuation := by
  intro hcontinuation
  have hkind := isContinuation_iff.mp hcontinuation
  cases h with
  | name hname => simp [hkind] at hname
  | inside hopens _ _ => simp [hkind, r.not_continuation] at hopens

/-- There is one way to a name. -/
lemma Way.unique {rings' : List Node} {name' : Node} (h : r.Way step? rings n name)
    (h' : r.Way step? rings' n name') : rings = rings' := by
  induction h generalizing rings' with
  | name hkind =>
    cases h' with
    | name _ => rfl
    | inside hopens _ _ => simp [hkind, r.not_identifier] at hopens
  | inside hopens hinner _ ih =>
    cases h' with
    | name hkind => simp [hkind, r.not_identifier] at hopens
    | inside _ hinner' h' =>
      obtain rfl := Option.some.inj (hinner.symm.trans hinner')
      rw [ih h']

/-- **A name is found if no line continuation is on the way.** -/
lemma way_inside_iff :
    r.Way r.inside? rings n name ↔
      r.Way r.content? rings n name ∧ ∀ ring ∈ rings, ¬ r.Blocked ring := by
  constructor
  · intro h
    induction h with
    | name hkind => exact ⟨.name hkind, List.forall_mem_nil _⟩
    | inside hopens hinner h ih =>
      obtain ⟨hcontent, hfree⟩ := (r.inside_iff _ _).mp ⟨hinner, h.not_isContinuation⟩
      exact ⟨.inside hopens hcontent ih.1, List.forall_mem_cons.mpr ⟨hfree, ih.2⟩⟩
  · rintro ⟨h, hfree⟩
    induction h with
    | name hkind => exact .name hkind
    | inside hopens hcontent _ ih =>
      obtain ⟨hring, hrings⟩ := List.forall_mem_cons.mp hfree
      exact .inside hopens ((r.inside_iff _ _).mpr ⟨hcontent, hring⟩).1 (ih hrings)

/-- Related nodes have related ways, if what is read in them is related. -/
lemma Way.transfer {R : Node → Node → Prop} (hkind : ∀ a b, R a b → b.kind = a.kind)
    (hstep : ∀ a b, R a b → Option.Rel R (step? a) (step? b)) (h : r.Way step? rings n name)
    (hR : R n m) :
    ∃ rings' name', r.Way step? rings' m name' ∧ List.Forall₂ R rings rings' ∧ R name name' := by
  induction h generalizing m with
  | name hname => exact ⟨[], m, .name ((hkind _ _ hR).trans hname), .nil, hR⟩
  | inside hopens hinner _ ih =>
    rcases rel_cases (hstep _ _ hR) with ⟨hnone, -⟩ | ⟨a, b, ha, hb, hab⟩
    · rw [hnone] at hinner
      cases hinner
    · obtain rfl := Option.some.inj (ha.symm.trans hinner)
      obtain ⟨rings', name', hway, hrings, hname⟩ := ih hab
      exact ⟨m :: rings', name', .inside (by rwa [hkind _ _ hR]) hb hway, .cons hR hrings, hname⟩

/-- What is left of a node has the way that the node has. -/
lemma Way.of_continues (h : r.Way r.content? rings n name) (hleft : Continues cleared n m) :
    ∃ rings' name', r.Way r.content? rings' m name' ∧
      List.Forall₂ (Continues cleared) rings rings' ∧ Continues cleared name name' :=
  h.transfer (fun _ _ h => h.kind_eq) (fun _ _ h => r.content_rel h) hleft

/-- A node has the way that what is left of it has. -/
lemma Way.of_continued (h : r.Way r.content? rings m name) (hleft : Continues cleared n m) :
    ∃ rings' name', r.Way r.content? rings' n name' ∧ Continues cleared name' name := by
  obtain ⟨rings', name', hway, -, hname⟩ :=
    h.transfer (R := flip (Continues cleared)) (fun _ _ h => h.kind_eq.symm) (fun a b h => by
      rcases rel_cases (r.content_rel h) with ⟨hb, ha⟩ | ⟨x, y, hb, ha, hxy⟩
      · rw [ha, hb]
        exact .none
      · rw [ha, hb]
        exact .some hxy) hleft
  exact ⟨rings', name', hway, hname⟩

end Way

/-! ## What is read of a tree and of what is left of it -/

/-- A function that gives the text of the name that a reader finds. -/
def Reads (r : NameReader) (source : List Char) (text? : Node → Option String) : Prop :=
  ∀ n text, text? n = some text ↔ ∃ name, r.Finds n name ∧ text = name.text source

/-- A function that does what a reader does gives the texts of the names that the reader finds. -/
lemma reads_of_eq {r : NameReader} {source : List Char} {text? : Node → Option String}
    (heq : ∀ n, text? n =
      if n.kind == "identifier" then some (n.text source)
      else if r.opens n.kind then (r.inside? n).bind text?
      else none) : r.Reads source text? := by
  intro n text
  constructor
  · intro h
    induction hsize : n.size using Nat.strong_induction_on generalizing n with
    | _ size ih =>
      rw [heq] at h
      split at h
      · rename_i hkind
        exact ⟨n, ⟨[], .name (by simpa using hkind)⟩, (Option.some.inj h).symm⟩
      split at h
      · rename_i hopens
        obtain ⟨inner, hinner, htext⟩ := Option.bind_eq_some_iff.mp h
        have hlt : inner.size < size := hsize ▸ Node.size_lt_of_mem_children (r.mem_children hinner)
        obtain ⟨name, ⟨rings, hway⟩, rfl⟩ := ih _ hlt inner htext rfl
        exact ⟨name, ⟨n :: rings, .inside hopens hinner hway⟩, rfl⟩
      · cases h
  · rintro ⟨name, ⟨rings, hway⟩, rfl⟩
    induction hway with
    | name hkind => rw [heq, if_pos (by simp [hkind])]
    | @inside n inner name rings hopens hinner _ ih =>
      have hname : ¬ (n.kind == "identifier") = true := by
        intro hkind
        rw [beq_iff_eq.mp hkind, r.not_identifier] at hopens
        cases hopens
      rw [heq, if_neg hname, if_pos hopens, hinner, Option.bind_some, ih]

section Reads

variable {r : NameReader} {source : List Char} {text? : Node → Option String} {n m : Node}
  {ns ms : List Node} {cleared : Prop}

/-- A name that is found is found without some line continuations. -/
lemma Reads.of_sheds (hr : r.Reads source text?) (hleft : Continues cleared n m) {text : String}
    (h : text? n = some text) : text? m = some text := by
  obtain ⟨name, ⟨rings, hway⟩, rfl⟩ := (hr n text).mp h
  obtain ⟨hcontent, hfree⟩ := way_inside_iff.mp hway
  obtain ⟨rings', name', hway', hrings, hname⟩ := hcontent.of_continues hleft
  have hfree' : ∀ ring ∈ rings', ¬ r.Blocked ring := by
    intro ring' hring' hblocked
    obtain ⟨ring, hring, hcontinues⟩ := exists_rel_of_mem_right hrings hring'
    exact hfree ring hring (r.blocked_of_continues hcontinues hblocked)
  exact (hr m _).mpr
    ⟨name', ⟨rings', way_inside_iff.mpr ⟨hway', hfree'⟩⟩, (hname.text_eq source).symm⟩

/-- As much is found without some line continuations, or more. -/
lemma Reads.length_le (hr : r.Reads source text?) (hleft : Continues cleared n m) :
    (text? n).toList.length ≤ (text? m).toList.length := by
  cases htext : text? n with
  | none => exact Nat.zero_le _
  | some text =>
    rw [hr.of_sheds hleft htext]

/-- Without obstructions, nothing is found that was not found before. -/
lemma Reads.eq_of_sheds (hr : r.Reads source text?) (hleft : Continues cleared n m)
    (hfree : ¬ r.Obstructed n) : text? m = text? n := by
  refine Option.ext fun text => ⟨fun h => ?_, hr.of_sheds hleft⟩
  obtain ⟨name', ⟨rings', hway'⟩, rfl⟩ := (hr m text).mp h
  obtain ⟨rings, name, hway, hname⟩ := (way_inside_iff.mp hway').1.of_continued hleft
  have hrings : ∀ ring ∈ rings, ¬ r.Blocked ring :=
    fun ring hring hblocked => hfree ⟨rings, name, hway, ring, hring, hblocked⟩
  exact (hr n _).mpr ⟨name, ⟨rings, way_inside_iff.mpr ⟨hway, hrings⟩⟩, hname.text_eq source⟩

/-- An obstructed name is not found, but it is found without any line continuations. -/
lemma Reads.of_obstructed (hr : r.Reads source text?) (h : r.Obstructed n)
    (hleft : Continues True n m) :
    text? n = none ∧ (text? m).isSome := by
  obtain ⟨rings, name, hway, ring, hring, hblocked⟩ := h
  constructor
  · refine Option.eq_none_iff_forall_ne_some.mpr fun text htext => ?_
    obtain ⟨name', ⟨rings', hway'⟩, -⟩ := (hr n text).mp htext
    obtain ⟨hcontent, hfree⟩ := way_inside_iff.mp hway'
    rw [hway.unique hcontent] at hring
    exact hfree ring hring hblocked
  · obtain ⟨rings', name', hway', hrings, -⟩ := hway.of_continues hleft
    have hfree : ∀ ring ∈ rings', ¬ r.Blocked ring := by
      intro ring' hring' hblocked
      obtain ⟨ring, -, hcontinues⟩ := exists_rel_of_mem_right hrings hring'
      obtain ⟨c, hc, hcontinuation⟩ := r.exists_continuation _ hblocked
      exact hcontinues.left _ .refl trivial c hc (isContinuation_iff.mp hcontinuation)
    rw [(hr m _).mpr ⟨name', ⟨rings', way_inside_iff.mpr ⟨hway', hfree⟩⟩, rfl⟩]
    rfl

/-- As many names are read without some line continuations, or more. -/
lemma Reads.length_filterMap_le (hr : r.Reads source text?)
    (h : List.Forall₂ (Continues cleared) ns ms) :
    (ns.filterMap text?).length ≤ (ms.filterMap text?).length := by
  rw [List.filterMap_eq_flatMap_toList, List.filterMap_eq_flatMap_toList]
  exact length_flatMap_le h fun n m hleft => hr.length_le hleft

/-- Without obstructions, the same names are read. -/
lemma Reads.filterMap_eq (hr : r.Reads source text?) (h : List.Forall₂ (Continues cleared) ns ms)
    (hfree : ∀ n ∈ ns, ¬ r.Obstructed n) : ms.filterMap text? = ns.filterMap text? :=
  filterMap_eq_of_forall₂ h fun n hn _ hleft => hr.eq_of_sheds hleft (hfree n hn)

/-- If the same names are read without any line continuations, there are no obstructions. -/
lemma Reads.not_obstructed (hr : r.Reads source text?) (h : List.Forall₂ (Continues True) ns ms)
    (heq : ms.filterMap text? = ns.filterMap text?) : ∀ n ∈ ns, ¬ r.Obstructed n := by
  rw [List.filterMap_eq_flatMap_toList, List.filterMap_eq_flatMap_toList] at heq
  intro n hn hobstructed
  obtain ⟨m, hleft, hlists⟩ := exists_eq_of_flatMap_eq h
    (fun n m hleft => hr.length_le hleft) heq hn
  obtain ⟨hnone, hsome⟩ := hr.of_obstructed hobstructed hleft
  rw [hnone, Option.toList_none, Option.toList_eq_nil_iff] at hlists
  simp [hlists] at hsome

end Reads

end NameReader

/-! ## The readers of targets and of expressions -/

/-- What is alone in parentheses without a comma, if line continuations are passed over. -/
def onlyContent? (n : Node) : Option Node :=
  if n.children.any (·.kind == ",") then none
  else
    match n.content with
    | [inner] => some inner
    | _ => none

/-- The content of a node, from what is no comment in it. -/
lemma content_eq_filter (n : Node) :
    n.content = (n.namedChildren.filter fun c => !c.isComment).filter fun c =>
      !c.isContinuation := by
  rw [Node.content, List.filter_filter]
  simp only [Bool.and_comm]

/-- A line continuation is no comment. -/
lemma not_isComment_of_isContinuation {n : Node} (h : n.isContinuation) : ¬ n.isComment := by
  simp [isComment, isContinuation_iff.mp h]

/-- The only content of a node is its content if this is one node and the node has no comma. -/
lemma onlyContent?_eq_some_iff {n inner : Node} :
    onlyContent? n = some inner ↔ n.children.any (·.kind == ",") = false ∧
      n.content = [inner] := by
  rw [onlyContent?]
  exact only_eq_some_iff

/-- What is alone in parentheses is alone without line continuations, unless it is one itself or
there are some beside it. -/
lemma onlyInside?_iff (n inner : Node) :
    (onlyInside? n = some inner ∧ ¬ inner.isContinuation) ↔
      onlyContent? n = some inner ∧ ¬ ∃ c ∈ n.namedChildren, c.isContinuation := by
  rw [onlyInside?_eq_some_iff, onlyContent?_eq_some_iff, content_eq_filter]
  constructor
  · rintro ⟨⟨hcomma, hinside⟩, hinner⟩
    refine ⟨⟨hcomma, by simp [hinside, hinner]⟩, ?_⟩
    rintro ⟨c, hc, hcontinuation⟩
    have hmem : c ∈ n.namedChildren.filter fun c => !c.isComment :=
      List.mem_filter.mpr ⟨hc, by simp [not_isComment_of_isContinuation hcontinuation]⟩
    rw [hinside, List.mem_singleton] at hmem
    exact hinner (hmem ▸ hcontinuation)
  · rintro ⟨⟨hcomma, hcontent⟩, hfree⟩
    have hself : (n.namedChildren.filter fun c => !c.isComment).filter (fun c =>
        !c.isContinuation) = n.namedChildren.filter fun c => !c.isComment := by
      refine List.filter_eq_self.mpr fun c hc => ?_
      simpa using fun hcontinuation => hfree ⟨c, (List.mem_filter.mp hc).1, hcontinuation⟩
    have hinner : inner ∈ [inner] := List.mem_singleton_self inner
    rw [← hcontent] at hinner
    exact ⟨⟨hcomma, hself ▸ hcontent⟩, by simpa using (List.mem_filter.mp hinner).2⟩

/-- What is first in parentheses is first without line continuations, unless it is one. -/
lemma firstCodeChild?_iff (n inner : Node) :
    (firstCodeChild? n = some inner ∧ ¬ inner.isContinuation) ↔
      n.content.head? = some inner ∧ ¬ ∃ c ∈ firstCodeChild? n, c.isContinuation := by
  rw [firstCodeChild?, ← List.head?_filter, content_eq_filter]
  cases n.namedChildren.filter fun c => !c.isComment with
  | nil => simp
  | cons first rest =>
    by_cases hfirst : first.isContinuation
    · simp only [List.head?_cons, Option.some.injEq, Option.mem_def, exists_eq_left', hfirst,
        not_true_eq_false, and_false, iff_false, not_and, not_not]
      rintro rfl
      exact hfirst
    · rw [List.filter_cons_of_pos (by simp [hfirst])]
      simp only [List.head?_cons, Option.some.injEq, Option.mem_def, exists_eq_left', hfirst]
      constructor
      · rintro ⟨rfl, -⟩
        exact ⟨rfl, Bool.false_ne_true⟩
      · rintro ⟨rfl, -⟩
        exact ⟨rfl, hfirst⟩

section Continues

variable {cleared : Prop} {n m : Node}

/-- A comma is left. -/
lemma any_comma_of_continues (h : Continues cleared n m) :
    m.children.any (·.kind == ",") = n.children.any (·.kind == ",") := by
  have hcommas := h.forall₂_filter (·.kind == ",") fun c _ hkind => by
    have hcontinuation : c.info.kind = "line_continuation" := hkind
    simp [hcontinuation]
  rw [Bool.eq_iff_iff, List.any_eq_true, List.any_eq_true]
  constructor
  · rintro ⟨comma, hmem, hkind⟩
    obtain ⟨c, hc, -⟩ := exists_rel_of_mem_right hcommas (List.mem_filter.mpr ⟨hmem, hkind⟩)
    exact ⟨c, List.mem_filter.mp hc⟩
  · rintro ⟨comma, hmem, hkind⟩
    obtain ⟨c, hc, -⟩ := exists_rel_of_mem_left hcommas (List.mem_filter.mpr ⟨hmem, hkind⟩)
    exact ⟨c, List.mem_filter.mp hc⟩

/-- What is alone in parentheses is left there. -/
lemma onlyContent?_rel (h : Continues cleared n m) :
    Option.Rel (Continues cleared) (onlyContent? n) (onlyContent? m) := by
  rw [onlyContent?, onlyContent?, any_comma_of_continues h]
  exact only_rel (Continues.content h)

/-- If what is first in the parentheses that are left is a line continuation, then it was one. -/
lemma firstCodeChild?_continuation (h : Continues cleared n m)
    (hblocked : ∃ c ∈ firstCodeChild? m, c.isContinuation) :
    ∃ c ∈ firstCodeChild? n, c.isContinuation := by
  obtain ⟨d, hd, hcontinuation⟩ := hblocked
  by_contra hfree
  have hcode (n : Node) : firstCodeChild? n = (n.children.filter fun c =>
      !(c.info.kind == "comment") && c.info.named).head? := by
    rw [firstCodeChild?, ← List.head?_filter, namedChildren, List.filter_filter]
    rfl
  rw [hcode] at hd hfree
  have hthins := h.children.filter fun i => !(i.kind == "comment") && i.named
  have hrel := hthins.head? fun c hc hkind =>
    hfree ⟨c, hc, isContinuation_iff.mpr hkind⟩
  rcases rel_cases hrel with ⟨-, hnone⟩ | ⟨c, d', hc, hd', hleft⟩
  · rw [hnone] at hd
    cases hd
  · obtain rfl := Option.some.inj (hd.symm.trans hd')
    exact hfree ⟨c, hc, by rwa [← Continues.isContinuation_eq hleft]⟩

end Continues

/-- The reader of assignment targets: what is alone in parentheses is read. Any line continuation
in them stops it. -/
def targetReader : NameReader where
  opens kind := kind == "tuple_pattern" || kind == "parenthesized_expression"
  inside? := onlyInside?
  content? := onlyContent?
  Blocked n := ∃ c ∈ n.namedChildren, c.isContinuation
  mem_children := mem_children_of_onlyInside?
  not_identifier := by decide
  not_continuation := by decide
  inside_iff := onlyInside?_iff
  content_rel := onlyContent?_rel
  blocked_of_continues := by
    rintro cleared n m h ⟨d, hd, hcontinuation⟩
    obtain ⟨c, hc, hleft⟩ := h.namedChildren.exists_of_mem hd
    exact ⟨c, hc, by rwa [← Continues.isContinuation_eq hleft]⟩
  exists_continuation := fun n ⟨c, hc, hcontinuation⟩ =>
    ⟨c, (List.mem_filter.mp hc).1, hcontinuation⟩

/-- The reader of decorators and base classes: what is first in parentheses is read. A line
continuation in front of it stops the reader. -/
def expressionReader : NameReader where
  opens kind := kind == "parenthesized_expression"
  inside? := firstCodeChild?
  content? n := n.content.head?
  Blocked n := ∃ c ∈ firstCodeChild? n, c.isContinuation
  mem_children := mem_children_of_firstCodeChild?
  not_identifier := by decide
  not_continuation := by decide
  inside_iff := firstCodeChild?_iff
  content_rel h := rel_head? (Continues.content h)
  blocked_of_continues := firstCodeChild?_continuation
  exists_continuation := fun n ⟨c, hc, hcontinuation⟩ =>
    ⟨c, mem_children_of_firstCodeChild? hc, hcontinuation⟩

/-- The names of targets are those that their reader finds. -/
lemma targetReader_reads (source : List Char) :
    targetReader.Reads source fun target => (nameTarget? target).map (·.text source) := by
  refine NameReader.reads_of_eq fun n => ?_
  rw [nameTarget?_eq]
  split
  · rfl
  · change Option.map _ (if targetReader.opens n.kind then _ else _) = _
    split
    · exact Option.map_bind
    · rfl

/-- The names of expressions are those that their reader finds. -/
lemma expressionReader_reads (source : List Char) :
    expressionReader.Reads source (bareName? source) :=
  NameReader.reads_of_eq fun n => bareName?_eq source n

end CodeCatalog
