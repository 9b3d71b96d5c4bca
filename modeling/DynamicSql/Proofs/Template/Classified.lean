/-
What is known of a template from the tree that it is written as.

Building drops, collapses, splits, merges and puts chains together. Whether a
template is dynamic and whether it has parameters is worked out from what comes
of this, and still it can be read off the tree: a placeholder in a text is one
in the node that the text goes into (`PutTogether.any_marks`), and nothing else
puts placeholders into nodes.

# Texts that count

A template is dynamic by what stands at its top. It has parameters by all texts
that are built, at whatever depth. Not all are: a binding has no content, and of
a choice only the elements count. So what matters of a text are the names of the
elements around it (`Tree.StandsIn`). In a template that was built these names
tell just which texts were (`collects_iff`).
-/
import DynamicSql.Proofs.Template.Collapsed
import DynamicSql.Proofs.Template.NormalTexts
import DynamicSql.Proofs.Template.PlainRuns

namespace DynamicSql.Template

variable {o : Options} {n : Node} {t : Tree} {run trees : List Tree} {nodes : List Node}

-- ======================================================== placeholders

/-- True of a placeholder of the kind. -/
def Piece.isOfKind : PlaceholderKind → Piece → Bool
  | .interpolation => Piece.isInterpolation
  | .parameter => Piece.isParameter

/-- True of characters with a placeholder of the kind in them, as they are
written. -/
def Tree.holds (kind : PlaceholderKind) : Tree → Bool
  | .text raw _ => (Segment.split raw).any (Segment.isOfKind kind)
  | .element _ _ _ _ => false

theorem Segment.any_isOfKind (kind : PlaceholderKind) (segments : List Segment) :
    segments.any (Segment.isOfKind kind)
      = (Segment.placeholders segments).any fun p => p.1 == kind := by
  induction segments with
  | nil => rfl
  | cons s rest ih =>
    rw [List.any_cons, ih]
    cases s <;> rfl

/-- A run has the placeholders that were written, whether it is collapsed or
not. -/
theorem any_isOfKind_used (o : Options) (kind : PlaceholderKind) (raw : String) :
    (Segment.split (if o.preserveWhitespace then raw else Text.collapse raw)).any
        (Segment.isOfKind kind)
      = (Segment.split raw).any (Segment.isOfKind kind) := by
  split
  · rfl
  · rw [Segment.any_isOfKind, Segment.any_isOfKind, Segment.placeholders_collapse, List.any_map]
    rfl

theorem Piece.IsOf.isOfKind {s : Segment} {p : Piece} (h : Piece.IsOf s p)
    (kind : PlaceholderKind) : p.isOfKind kind = s.isOfKind kind := by
  cases h <;> cases kind <;> rfl

/-- True of the mark of a placeholder of the kind. -/
def isMarkOf (kind : PlaceholderKind) : Char ⊕ Piece → Bool :=
  Sum.elim (fun _ => false) (Piece.isOfKind kind)

theorem any_isMarkOf (kind : PlaceholderKind) (pieces : List Piece) :
    (pieces.flatMap Piece.marks).any (isMarkOf kind) = pieces.any (Piece.isOfKind kind) :=
  (any_eq_any_marks (fun _ => by cases kind <;> rfl) pieces).symm

theorem any_isMarkOf_chars (kind : PlaceholderKind) (cs : List Char) :
    (cs.map Sum.inl).any (isMarkOf kind) = false := by
  induction cs with
  | nil => rfl
  | cons c cs ih => rw [List.map_cons, List.any_cons, ih]; rfl

/-- A run that was read has the placeholders that were written. -/
theorem Tree.ReadAs.any_marks {marks : List (Char ⊕ Piece)} (h : t.ReadAs o marks)
    (kind : PlaceholderKind) : marks.any (isMarkOf kind) = t.holds kind := by
  obtain ⟨raw, span, pieces, rfl, hpieces, rfl⟩ := h
  rw [any_isMarkOf, Tree.holds, ← any_isOfKind_used o]
  generalize Segment.split _ = segments at hpieces
  induction hpieces with
  | nil => rfl
  | cons hp _ ih => rw [List.any_cons, List.any_cons, hp.isOfKind, ih]

/-- A text has the placeholders of all its runs. -/
theorem PutTogether.any_marks (h : PutTogether o run n) (kind : PlaceholderKind) :
    n.marks.any (isMarkOf kind) = run.any (Tree.holds kind) := by
  obtain ⟨parts, hparts, hmarks⟩ := h
  rw [hmarks, ← joiner_marks]
  clear hmarks
  cases hparts with
  | nil => rfl
  | cons hfirst hmore =>
    rw [intercalate_cons, List.any_append, List.any_cons, hfirst.any_marks]
    congr 1
    induction hmore with
    | nil => rfl
    | cons hnext _ ih =>
      rw [List.flatMap_cons, List.any_append, List.any_append, any_isMarkOf_chars,
        Bool.false_or, hnext.any_marks, ih, List.any_cons]

-- =============================================================== dynamic

/-- A text is dynamic just if a value is substituted into it. -/
theorem Node.isDynamic_of_text (h : n.textClass?.isSome = true) :
    n.isDynamic = n.marks.any (isMarkOf .interpolation) := by
  cases n with
  | text content => exact (any_isMarkOf_chars _ content.toList).symm
  | placeholders t => exact (any_isMarkOf .interpolation t.pieces).symm
  | bind | conditional | choose | foreach | sequence => cases h

theorem Makes.isDynamic (h : Makes o run n) :
    n.isDynamic = run.any fun t => t.isElement || t.holds .interpolation := by
  cases hclass : n.textClass? with
  | some k =>
    have hsome : n.textClass?.isSome = true := by rw [hclass]; rfl
    have htexts := h.putTogether hsome
    rw [Node.isDynamic_of_text hsome, htexts.any_marks]
    clear h
    obtain ⟨parts, hparts, -⟩ := htexts
    -- No element is among the siblings of a text.
    induction hparts with
    | nil => rfl
    | cons hread _ ih =>
      obtain ⟨raw, span, _, rfl, -⟩ := hread
      rw [List.any_cons, List.any_cons, ih]
      rfl
  | none =>
    have helements := h.isElement hclass
    obtain ⟨t, ht⟩ := List.exists_mem_of_ne_nil run h.ne_nil
    have hany : (run.any fun t => t.isElement || t.holds .interpolation) = true :=
      List.any_eq_true.mpr ⟨t, ht, by rw [helements t ht]; rfl⟩
    rw [hany]
    cases n with
    | text _ | placeholders _ => cases hclass
    | bind | conditional | choose | foreach => rfl
    | sequence inner => exact absurd rfl (h.ne_sequence inner)

/-- A blank text holds no placeholder. -/
theorem Tree.holds_of_isBlank (h : t.isBlank = true) (kind : PlaceholderKind) :
    t.holds kind = false := by
  cases t with
  | element name attributes children span => cases h
  | text raw span =>
    have hnone := List.any_eq_false.mp
      (any_isPlaceholder_of_asWritten (Segment.asWritten_of_allBlank h))
    refine List.any_eq_false.mpr fun s hs => ?_
    cases s with
    | literal text => exact nofun
    | placeholder k content => exact absurd rfl (hnone _ hs)

/-- What is true of a node just if it is true of one of the siblings that make
it, and never of blank text, is true of a node that was built just if it is true
of a sibling. -/
theorem exists_iff_of_buildChildren {F : Node → Prop} {R : Tree → Prop}
    (hmakes : ∀ {run n}, Makes o run n → (F n ↔ ∃ t ∈ run, R t))
    (hblank : ∀ t, t.isBlank = true → ¬R t) (h : buildChildren o trees = .ok nodes) :
    (∃ n ∈ nodes, F n) ↔ ∃ t ∈ trees, R t := by
  obtain ⟨runs, hflatten, hruns, -⟩ := assembled_of_buildChildren h
  have hsiblings : (∃ n ∈ nodes, F n) ↔ ∃ t ∈ runs.flatten, R t := by
    clear hflatten h
    induction hruns with
    | nil => simp
    | cons hn _ ih =>
      rw [List.exists_mem_cons_iff, ih, hmakes hn]
      simp only [List.flatten_cons, List.mem_append, or_and_right, exists_or]
  rw [hsiblings, hflatten]
  constructor
  · rintro ⟨t, ht, hR⟩
    exact ⟨t, (List.mem_filter.mp ht).1, hR⟩
  · rintro ⟨t, ht, hR⟩
    have hsome : t.isBlank = false := Bool.eq_false_iff.mpr fun hb => hblank t hb hR
    exact ⟨t, List.mem_filter.mpr ⟨ht, by rw [hsome]; rfl⟩, hR⟩

theorem Node.anyIsDynamic_iff (nodes : List Node) :
    Node.anyIsDynamic nodes = true ↔ ∃ n ∈ nodes, n.isDynamic = true := by
  induction nodes with
  | nil => simp [anyIsDynamic]
  | cons n rest ih => rw [anyIsDynamic, Bool.or_eq_true, ih, List.exists_mem_cons_iff]

/-- A template is dynamic just if an element stands at its top, or a text with a
placeholder to be substituted. -/
theorem anyIsDynamic_of_buildChildren (h : buildChildren o trees = .ok nodes) :
    Node.anyIsDynamic nodes = true
      ↔ ∃ t ∈ trees, t.isElement = true ∨ t.holds .interpolation = true := by
  rw [Node.anyIsDynamic_iff]
  refine exists_iff_of_buildChildren (fun hn => ?_) (fun t hblank => ?_) h
  · rw [hn.isDynamic, List.any_eq_true]
    simp only [Bool.or_eq_true]
  · rw [Tree.holds_of_isBlank hblank]
    cases t with
    | text raw span => exact nofun
    | element name attributes children span => cases hblank

-- ============================================================ parameters

theorem Body.hasParameters_eq (b : Body) : b.hasParameters = b.node.hasParameters := by
  obtain ⟨own, node⟩ := b
  rfl

theorem Branch.hasParameters_eq (b : Branch) : b.hasParameters = b.body.hasParameters := by
  obtain ⟨tag, test, body, span⟩ := b
  rfl

theorem Branch.anyHasParameters_eq (branches : List Branch) :
    Branch.anyHasParameters branches = branches.any (·.body.hasParameters) := by
  induction branches with
  | nil => rfl
  | cons b rest ih => rw [Branch.anyHasParameters, ih, hasParameters_eq, List.any_cons]

theorem Case.anyHasParameters_eq (cases : List Case) :
    Case.anyHasParameters cases = cases.any (·.body.hasParameters) := by
  induction cases with
  | nil => rfl
  | cons k rest ih =>
    obtain ⟨test, breaks, body, span⟩ := k
    rw [Case.anyHasParameters, ih, List.any_cons]

theorem Node.anyHasParameters_iff (nodes : List Node) :
    Node.anyHasParameters nodes = true ↔ ∃ n ∈ nodes, n.hasParameters = true := by
  induction nodes with
  | nil => simp [anyHasParameters]
  | cons n rest ih => rw [anyHasParameters, Bool.or_eq_true, ih, List.exists_mem_cons_iff]

/-- One node or many have the parameters that the nodes have. -/
theorem Node.hasParameters_ofList (nodes : List Node) :
    (Node.ofList nodes).hasParameters = Node.anyHasParameters nodes := by
  unfold ofList
  split
  · next n => rw [anyHasParameters, anyHasParameters, Bool.or_false]
  · rfl

/-- A node that is no sequence has the parameters of its text, or of what is
inside. -/
theorem Node.hasParameters_eq (h : ∀ inner, n ≠ .sequence inner) :
    n.hasParameters = (n.marks.any (isMarkOf .parameter) || n.contents.any Node.hasParameters) := by
  cases n with
  | text content =>
    show false = ((content.toList.map Sum.inl).any _ || false)
    rw [any_isMarkOf_chars]
    rfl
  | placeholders t =>
    show t.hasParameters = ((t.pieces.flatMap Piece.marks).any _ || false)
    rw [any_isMarkOf, Bool.or_false]
    rfl
  | bind b => rfl
  | conditional first others otherwise =>
    cases otherwise <;>
      simp [Node.hasParameters, Node.marks, Node.contents, Node.bodies, Branch.hasParameters_eq,
        Branch.anyHasParameters_eq, Body.hasParameters_eq, Bool.or_assoc, Function.comp_def]
  | choose cases otherwise span =>
    cases otherwise <;>
      simp [Node.hasParameters, Node.marks, Node.contents, Node.bodies,
        Case.anyHasParameters_eq, Body.hasParameters_eq, Function.comp_def]
  | foreach head body => simp [Node.hasParameters, Node.marks, Node.contents]
  | sequence inner => exact absurd rfl (h inner)

/-- The placeholders of a node are those of its siblings. -/
theorem Makes.any_marks (h : Makes o run n) (kind : PlaceholderKind) :
    n.marks.any (isMarkOf kind) = run.any (Tree.holds kind) := by
  cases hclass : n.textClass? with
  | some k => exact (h.putTogether (by rw [hclass]; rfl)).any_marks kind
  | none =>
    have hmarks : n.marks = [] := by
      cases n with
      | text _ | placeholders _ => cases hclass
      | _ => rfl
    rw [hmarks]
    refine (List.any_eq_false.mpr fun t ht => ?_).symm
    have helement := h.isElement hclass t ht
    cases t with
    | text raw span => cases helement
    | element name attributes children span => exact nofun

/-- Siblings that are built have parameters. -/
def BuildsParameters (o : Options) (trees : List Tree) : Prop :=
  ∃ nodes, buildChildren o trees = .ok nodes ∧ Node.anyHasParameters nodes = true

/-- What is built of lists of siblings has parameters just if what is built of
one of them has. -/
theorem BuiltOf.hasParameters {lists : List (List Tree)} {contents : List Node}
    (h : BuiltOf o lists contents) :
    contents.any Node.hasParameters = true ↔ ∃ trees ∈ lists, BuildsParameters o trees := by
  obtain ⟨built, hbuilt, hperm⟩ := h
  rw [hperm.any_eq, List.any_map]
  clear hperm
  induction hbuilt with
  | nil => simp
  | cons hnodes _ ih =>
    rw [List.any_cons, Bool.or_eq_true, ih, List.exists_mem_cons_iff, Function.comp_apply,
      Node.hasParameters_ofList]
    refine or_congr_left ⟨fun hany => ⟨_, hnodes, hany⟩, ?_⟩
    rintro ⟨nodes, hsame, hany⟩
    obtain rfl := Except.ok.inj (hnodes.symm.trans hsame)
    exact hany

/-- A template has parameters just if a text at its top has one, or what an
element there encloses. -/
theorem anyHasParameters_of_buildChildren (h : buildChildren o trees = .ok nodes) :
    Node.anyHasParameters nodes = true ↔ ∃ t ∈ trees, t.holds .parameter = true
      ∨ ∃ enclosed ∈ t.contents, BuildsParameters o enclosed := by
  rw [Node.anyHasParameters_iff]
  refine exists_iff_of_buildChildren (fun {run n} hn => ?_) (fun t hblank => ?_) h
  · rw [Node.hasParameters_eq hn.ne_sequence, hn.any_marks, Bool.or_eq_true, List.any_eq_true,
      hn.contents.hasParameters]
    simp only [List.mem_flatMap, and_or_left, exists_or]
    refine or_congr_right ⟨?_, ?_⟩
    · rintro ⟨enclosed, ⟨t, ht, henclosed⟩, hbuilds⟩
      exact ⟨t, ht, enclosed, henclosed, hbuilds⟩
    · rintro ⟨t, ht, enclosed, henclosed, hbuilds⟩
      exact ⟨enclosed, ⟨t, ht, henclosed⟩, hbuilds⟩
  · rw [Tree.holds_of_isBlank hblank]
    cases t with
    | text raw span => simp [Tree.contents]
    | element name attributes children span => cases hblank

-- ============================================================== the tree

/-- A text stands in a template, within elements of these names, the outermost
first. -/
inductive Tree.StandsIn (raw : String) : List String → List Tree → Prop where
  | here {span : Option Span} {trees : List Tree} : .text raw span ∈ trees → StandsIn raw [] trees
  | inside {name : String} {attributes : Attributes} {children trees : List Tree}
      {span : Option Span} {around : List String} :
      .element name attributes children span ∈ trees → StandsIn raw around children →
      StandsIn raw (name :: around) trees

/-- A text within elements of these names is built: it does not stand directly in
a choice, and not at any depth in a binding. -/
def IsBuiltWithin (around : List String) : Prop :=
  around.getLast? ≠ some "choose" ∧ "bind" ∉ around

theorem isBuiltWithin_nil : IsBuiltWithin [] := ⟨nofun, nofun⟩

theorem isBuiltWithin_cons {name : String} {around : List String} (hchoose : name ≠ "choose")
    (hbind : name ≠ "bind") : IsBuiltWithin (name :: around) ↔ IsBuiltWithin around := by
  unfold IsBuiltWithin
  have hmem : "bind" ∈ name :: around ↔ "bind" ∈ around := by simp [hbind.symm]
  rw [hmem]
  cases around with
  | nil => simp [hchoose]
  | cons next rest => rw [List.getLast?_cons_cons]

/-- In a choice, what matters is the element that stands in it. -/
theorem isBuiltWithin_choose {around : List String} :
    IsBuiltWithin ("choose" :: around) ↔ around ≠ [] ∧ IsBuiltWithin around := by
  unfold IsBuiltWithin
  cases around with
  | nil => simp
  | cons next rest => simp [List.getLast?_cons_cons]

theorem not_isBuiltWithin_bind (around : List String) : ¬IsBuiltWithin ("bind" :: around) :=
  fun h => h.2 List.mem_cons_self

/-- A text with a parameter stands in the template where texts are built, within
elements of these names and further ones. -/
def CollectsWithin (outer : List String) (trees : List Tree) : Prop :=
  ∃ raw around, Tree.StandsIn raw around trees ∧ IsBuiltWithin (outer ++ around)
    ∧ (Segment.split raw).any (Segment.isOfKind .parameter) = true

/-- The name of an element that is built in a choice. -/
theorem name_of_buildChoice {done out : Choice} (h : buildChoice o done trees = .ok out)
    {name : String} {attributes : Attributes} {children : List Tree} {span : Option Span}
    (ht : .element name attributes children span ∈ trees) : name ≠ "choose" ∧ name ≠ "bind" := by
  induction trees generalizing done with
  | nil => cases ht
  | cons t rest ih =>
    cases t with
    | text raw span' =>
      rw [buildChoice] at h
      rcases List.mem_cons.mp ht with heq | ht
      · cases heq
      · exact ih h ht
    | element name' attributes' children' span' =>
      rw [buildChoice] at h
      rcases List.mem_cons.mp ht with heq | ht
      · cases heq
        constructor <;>
        · rintro rfl
          simp [ChoiceKind.ofName?, bind, Except.bind] at h
      · split at h
        · cases h
        · obtain ⟨test, -, h⟩ := Except.bind_eq_ok.mp h
          obtain ⟨breaks, -, h⟩ := Except.bind_eq_ok.mp h
          obtain ⟨inside, -, h⟩ := Except.bind_eq_ok.mp h
          exact ih h ht
        · split at h
          · cases h
          · obtain ⟨inside, -, h⟩ := Except.bind_eq_ok.mp h
            exact ih h ht

theorem Tree.holds_text {kind : PlaceholderKind} :
    t.holds kind = true ↔ ∃ raw span, t = .text raw span
      ∧ (Segment.split raw).any (Segment.isOfKind kind) = true := by
  cases t with
  | text raw span => simp [holds]
  | element name attributes children span => simp [holds]

section CollectsWithin

variable {outer outer' : List String} {name : String} {attributes : Attributes}
  {children : List Tree} {span : Option Span}

theorem collectsWithin_congr
    (h : ∀ around, IsBuiltWithin (outer ++ around) ↔ IsBuiltWithin (outer' ++ around)) :
    CollectsWithin outer trees ↔ CollectsWithin outer' trees := by
  simp only [CollectsWithin, h]

/-- The text stands at the top, or in one of the elements there. -/
theorem collectsWithin_iff : CollectsWithin outer trees
    ↔ (IsBuiltWithin outer ∧ ∃ t ∈ trees, t.holds .parameter = true)
      ∨ ∃ name attributes children span, .element name attributes children span ∈ trees
        ∧ CollectsWithin (outer ++ [name]) children := by
  constructor
  · rintro ⟨raw, around, hstands, hbuilt, hany⟩
    cases hstands with
    | here hmem =>
      rw [List.append_nil] at hbuilt
      exact .inl ⟨hbuilt, _, hmem, hany⟩
    | inside hmem hinside =>
      rw [List.append_cons] at hbuilt
      exact .inr ⟨_, _, _, _, hmem, raw, _, hinside, hbuilt, hany⟩
  · rintro (⟨hbuilt, t, ht, hholds⟩ | ⟨name, _, _, _, hmem, raw, around, hinside, hbuilt, hany⟩)
    · obtain ⟨raw, span, rfl, hany⟩ := Tree.holds_text.mp hholds
      exact ⟨raw, [], .here ht, by rwa [List.append_nil], hany⟩
    · rw [← List.append_cons] at hbuilt
      exact ⟨raw, name :: around, .inside hmem hinside, hbuilt, hany⟩

theorem collectsWithin_name (hchoose : name ≠ "choose") (hbind : name ≠ "bind") :
    CollectsWithin [name] trees ↔ CollectsWithin [] trees :=
  collectsWithin_congr fun _ => isBuiltWithin_cons hchoose hbind

/-- In an element that was read, the texts that count are those of the lists of
siblings that are built for it. -/
theorem collectsWithin_element {c : Contribution}
    (h : Contribution.read o (.element name attributes children span) = .ok c) :
    CollectsWithin [name] children
      ↔ ∃ enclosed ∈ (Tree.element name attributes children span).contents,
        CollectsWithin [] enclosed := by
  have hother : ∀ {kind : ElementKind}, ElementKind.ofName? name = some kind → kind ≠ .bind →
      kind ≠ .choose → (CollectsWithin [name] children ↔ CollectsWithin [] children) := by
    intro kind hkind hbind hchoose
    refine collectsWithin_name ?_ ?_
    · rintro rfl
      exact hchoose (Option.some.inj hkind).symm
    · rintro rfl
      exact hbind (Option.some.inj hkind).symm
  rw [Contribution.read] at h
  split at h
  · cases h
  · cases h
  · next hkind =>
    rw [Tree.contents_of_kind attributes children span hkind]
    obtain rfl := ElementKind.name_of_ofName? hkind
    refine iff_of_false ?_ (by simp [ElementKind.contents])
    rintro ⟨raw, around, -, hbuilt, -⟩
    exact not_isBuiltWithin_bind around hbuilt
  · next tag hkind =>
    rw [Tree.contents_of_kind attributes children span hkind]
    simpa [ElementKind.contents] using hother hkind (by simp) (by simp)
  · next hkind =>
    rw [Tree.contents_of_kind attributes children span hkind]
    simpa [ElementKind.contents] using hother hkind (by simp) (by simp)
  · next hkind =>
    rw [Tree.contents_of_kind attributes children span hkind]
    simpa [ElementKind.contents] using hother hkind (by simp) (by simp)
  · next hkind =>
    rw [Tree.contents_of_kind attributes children span hkind]
    obtain rfl := ElementKind.name_of_ofName? hkind
    obtain ⟨choice, hchoice, -⟩ := Except.bind_eq_ok.mp h
    -- A text that counts stands in one of the elements of the choice.
    have hinside : ∀ {name' : String} {attributes' : Attributes} {children' : List Tree}
        {span' : Option Span}, .element name' attributes' children' span' ∈ children →
        (CollectsWithin ["choose", name'] children' ↔ CollectsWithin [] children') := by
      intro name' attributes' children' span' hmem
      obtain ⟨hchoose, hbind⟩ := name_of_buildChoice hchoice hmem
      refine Iff.trans (collectsWithin_congr fun around => ?_) (collectsWithin_name hchoose hbind)
      exact isBuiltWithin_choose.trans (and_iff_right (List.cons_ne_nil _ _))
    have hnot : ¬IsBuiltWithin ["choose"] := fun h => h.1 rfl
    rw [ElementKind.name, ElementKind.contents, collectsWithin_iff,
      or_iff_right fun h => hnot h.1]
    constructor
    · rintro ⟨name', attributes', children', span', hmem, hcollects⟩
      exact ⟨children', List.mem_filterMap.mpr ⟨_, hmem, rfl⟩, (hinside hmem).mp hcollects⟩
    · rintro ⟨enclosed, henclosed, hcollects⟩
      obtain ⟨t, ht, hsome⟩ := List.mem_filterMap.mp henclosed
      cases t with
      | text raw span => cases hsome
      | element name' attributes' children' span' =>
        obtain rfl := Option.some.inj hsome
        exact ⟨name', attributes', children', span', ht, (hinside ht).mpr hcollects⟩
  · next hkind =>
    rw [Tree.contents_of_kind attributes children span hkind]
    simpa [ElementKind.contents] using hother hkind (by simp) (by simp)

end CollectsWithin

theorem Tree.sizeOf_enclosed_lt {enclosed : List Tree} (h : enclosed ∈ Tree.enclosed trees) :
    sizeOf enclosed < sizeOf trees := by
  obtain ⟨t, ht, hsome⟩ := List.mem_filterMap.mp h
  have hlt := List.sizeOf_lt_of_mem ht
  cases t with
  | text raw span => cases hsome
  | element name attributes children span =>
    obtain rfl := Option.some.inj hsome
    simp only [element.sizeOf_spec] at hlt
    omega

/-- What is built for a sibling is smaller than the siblings. -/
theorem Tree.sizeOf_contents_lt {enclosed : List Tree} (ht : t ∈ trees)
    (h : enclosed ∈ t.contents) : sizeOf enclosed < sizeOf trees := by
  have hlt := List.sizeOf_lt_of_mem ht
  cases t with
  | text raw span => cases h
  | element name attributes children span =>
    simp only [element.sizeOf_spec] at hlt
    rw [contents] at h
    split at h
    · cases h
    · split at h
      · have hinside := Tree.sizeOf_enclosed_lt h
        omega
      · obtain rfl := List.mem_singleton.mp h
        omega

/-- A template has parameters just if a text with one stands in the tree where
texts are built. -/
theorem anyHasParameters_iff_collects (h : buildChildren o trees = .ok nodes) :
    Node.anyHasParameters nodes = true ↔ CollectsWithin [] trees := by
  induction hsize : sizeOf trees using Nat.strong_induction_on generalizing trees nodes with
  | _ size ih =>
    obtain ⟨s, hs, -⟩ := Except.map_eq_ok.mp h
    have hread := exists_read_of_buildSiblings hs
    have henclosed : ∀ t ∈ trees, ∀ enclosed ∈ t.contents,
        (BuildsParameters o enclosed ↔ CollectsWithin [] enclosed) := by
      intro t ht enclosed hmem
      obtain ⟨c, hc⟩ := hread t ht
      obtain ⟨built, hbuilt, -⟩ := Contribution.contents_of_read hc
      obtain ⟨inner, -, hinner⟩ := exists_of_forall₂ hbuilt hmem
      have hlt : sizeOf enclosed < size := hsize ▸ Tree.sizeOf_contents_lt ht hmem
      rw [← ih _ hlt hinner rfl]
      constructor
      · rintro ⟨nodes', hsame, hany⟩
        obtain rfl := Except.ok.inj (hinner.symm.trans hsame)
        exact hany
      · exact fun hany => ⟨inner, hinner, hany⟩
    have hinside : (∃ t ∈ trees, ∃ enclosed ∈ t.contents, BuildsParameters o enclosed)
        ↔ ∃ name attributes children span, .element name attributes children span ∈ trees
          ∧ CollectsWithin [name] children := by
      constructor
      · rintro ⟨t, ht, enclosed, hmem, hbuilds⟩
        obtain ⟨c, hc⟩ := hread t ht
        cases t with
        | text raw span => cases hmem
        | element name attributes children span =>
          have hcollects := (henclosed _ ht enclosed hmem).mp hbuilds
          exact ⟨name, attributes, children, span, ht,
            (collectsWithin_element hc).mpr ⟨enclosed, hmem, hcollects⟩⟩
      · rintro ⟨name, attributes, children, span, ht, hcollects⟩
        obtain ⟨c, hc⟩ := hread _ ht
        obtain ⟨enclosed, hmem, hinner⟩ := (collectsWithin_element hc).mp hcollects
        exact ⟨_, ht, enclosed, hmem, (henclosed _ ht enclosed hmem).mpr hinner⟩
    rw [anyHasParameters_of_buildChildren h, collectsWithin_iff, and_iff_right isBuiltWithin_nil]
    simp only [and_or_left, exists_or]
    exact or_congr_right hinside

end DynamicSql.Template
