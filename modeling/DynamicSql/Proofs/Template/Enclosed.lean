/-
What elements enclose, and what is built of it.

What an element encloses is built apart from what stands around the element, as
if it were a whole template. So a node that siblings make has inside just what
these siblings enclose (`Makes.contents`), and what is known of the nodes that
siblings become is known at any depth: nodes that stand together somewhere were
built of siblings (`exists_built_of_siblingsIn`), and all siblings that are built
became such nodes (`exists_siblingsIn_of_built`).

# Order

The `otherwise` of a choice may stand before its cases. It still comes last in
what is built, so what is inside a choice is what its elements enclose in
another order.

# One node or many

Nodes that stand together are a sequence in the body that holds them, save a
single one, which stands there itself. They can be told from it again because no
sibling becomes a sequence (`Makes.ne_sequence`).
-/
import DynamicSql.Proofs.Template.Assembled

namespace DynamicSql.Template

variable {o : Options} {t : Tree} {n : Node} {run trees : List Tree} {nodes : List Node}

-- ========================================================= what is built

/-- Siblings that were built can be read each by itself. -/
theorem exists_read_of_buildSiblings {s out : Siblings}
    (h : buildSiblings o s trees = .ok out) : ∀ t ∈ trees, ∃ c, Contribution.read o t = .ok c := by
  induction trees generalizing s with
  | nil => exact fun _ ht => nomatch ht
  | cons t rest ih =>
    rw [buildSiblings_cons] at h
    obtain ⟨c, hc, h⟩ := Except.bind_eq_ok.mp h
    obtain ⟨next, -, h⟩ := Except.bind_eq_ok.mp h
    exact List.forall_mem_cons.mpr ⟨⟨c, hc⟩, ih h⟩

/-- The nodes that are built are what the siblings become that are no blank
text. -/
theorem assembled_of_buildChildren (h : buildChildren o trees = .ok nodes) :
    Assembled o (trees.filter fun t => !t.isBlank) nodes := by
  obtain ⟨s, hs, rfl⟩ := Except.map_eq_ok.mp h
  have hread := exists_read_of_buildSiblings hs
  rw [← buildSiblings_filter] at hs
  have hsiblings : ∀ t ∈ trees.filter (fun t => !t.isBlank),
      t.isBlank = false ∧ ∃ c, Contribution.read o t = .ok c := by
    intro t ht
    obtain ⟨hmem, hblank⟩ := List.mem_filter.mp ht
    exact ⟨by simpa using hblank, hread t hmem⟩
  obtain ⟨runs, hgrown⟩ := buildSiblings_grown hsiblings hs
  exact ⟨runs.reverse, hgrown.flatten, List.forall₂_reverse_iff.mpr hgrown.makes,
    List.isChain_reverse.mpr hgrown.apart⟩

/-- What stands in a run of siblings stands among the siblings. -/
theorem mem_of_mem_run {runs : List (List Tree)}
    (h : runs.flatten = trees.filter fun t => !t.isBlank) (hrun : run ∈ runs) (ht : t ∈ run) :
    t ∈ trees := by
  have hmem : t ∈ trees.filter fun t => !t.isBlank := by
    rw [← h]
    exact List.mem_flatten.mpr ⟨run, hrun, ht⟩
  exact (List.mem_filter.mp hmem).1

-- ============================================================== contents

/-- What the elements among siblings enclose. -/
def Tree.enclosed (trees : List Tree) : List (List Tree) :=
  trees.filterMap fun
    | .text _ _ => none
    | .element _ _ children _ => some children

/-- The lists of siblings that are built for a sibling: what an element encloses
or, for a choice, what each element in it does. What a binding encloses is not
looked at. -/
def Tree.contents : Tree → List (List Tree)
  | .text _ _ => []
  | .element name _ children _ =>
    if name = "bind" then [] else if name = "choose" then Tree.enclosed children else [children]

/-- The lists of siblings that are built for an element of the kind. -/
def ElementKind.contents (children : List Tree) : ElementKind → List (List Tree)
  | .bind => []
  | .choose => Tree.enclosed children
  | _ => [children]

theorem Tree.contents_of_kind {name : String} {kind : ElementKind} (attributes : Attributes)
    (children : List Tree) (span : Option Span) (h : ElementKind.ofName? name = some kind) :
    (Tree.element name attributes children span).contents = kind.contents children := by
  obtain rfl := ElementKind.name_of_ofName? h
  cases kind with
  | branch tag => cases tag <;> rfl
  | _ => rfl

/-- The bodies of a choice so far. -/
def Choice.bodies (c : Choice) : List Body := c.cases.map Case.body ++ c.otherwise.toList

/-- The nodes inside of a node, of which each may be a sequence. -/
def Node.contents : Node → List Node
  | .foreach _ body => [body]
  | n => n.bodies.map Body.node

/-- The nodes inside of what a sibling contributes. -/
def Contribution.contents : Contribution → List Node
  | .nothing | .text _ => []
  | .whole n => n.contents
  | .opening branch | .further branch => [branch.body.node]
  | .last body => [body.node]

/-- The nodes are what lists of siblings become, each for itself, in one order or
another. -/
def BuiltOf (o : Options) (lists : List (List Tree)) (contents : List Node) : Prop :=
  ∃ built, List.Forall₂ (fun trees nodes => buildChildren o trees = .ok nodes) lists built
    ∧ contents.Perm (built.map Node.ofList)

section BuiltOf

variable {lists more : List (List Tree)} {contents others : List Node}

theorem BuiltOf.nil : BuiltOf o [] [] := ⟨[], .nil, .nil⟩

theorem BuiltOf.single (h : buildChildren o trees = .ok nodes) :
    BuiltOf o [trees] [Node.ofList nodes] := ⟨[nodes], .cons h .nil, .refl _⟩

theorem BuiltOf.append (h : BuiltOf o lists contents) (hmore : BuiltOf o more others) :
    BuiltOf o (lists ++ more) (contents ++ others) := by
  obtain ⟨built, hbuilt, hperm⟩ := h
  obtain ⟨built', hbuilt', hperm'⟩ := hmore
  refine ⟨built ++ built', List.rel_append hbuilt hbuilt', ?_⟩
  rw [List.map_append]
  exact hperm.append hperm'

theorem BuiltOf.perm (h : BuiltOf o lists contents) (hperm : others.Perm contents) :
    BuiltOf o lists others := by
  obtain ⟨built, hbuilt, hbuiltPerm⟩ := h
  exact ⟨built, hbuilt, hperm.trans hbuiltPerm⟩

/-- Siblings that were built one by one have their contents built one after the
other. -/
theorem BuiltOf.flatMap {α : Type} {read : Tree → α → Prop} {f : α → List Node}
    {run : List Tree} {made : List α}
    (hread : ∀ {t a}, read t a → BuiltOf o t.contents (f a))
    (h : List.Forall₂ read run made) :
    BuiltOf o (run.flatMap Tree.contents) (made.flatMap f) := by
  induction h with
  | nil => exact .nil
  | cons ha _ ih => exact (hread ha).append ih

end BuiltOf

/-- Each body of a choice is built of what one element in it encloses. -/
theorem builtOf_buildChoice {done out : Choice} {lists : List (List Tree)}
    (hdone : BuiltOf o lists (done.bodies.map Body.node))
    (h : buildChoice o done trees = .ok out) :
    BuiltOf o (lists ++ Tree.enclosed trees) (out.bodies.map Body.node) := by
  induction trees generalizing done lists with
  | nil =>
    rw [buildChoice] at h
    obtain rfl := Except.ok.inj h
    simpa [Tree.enclosed] using hdone
  | cons t rest ih =>
    cases t with
    | text raw span =>
      rw [buildChoice] at h
      exact ih hdone h
    | element name attributes children span =>
      rw [buildChoice] at h
      -- Whichever body the element becomes, it is one more.
      have hnext : ∀ {inside : Siblings} {next : Choice},
          buildSiblings o .empty children = .ok inside →
          (next.bodies.map Body.node).Perm
            (done.bodies.map Body.node ++ [Node.ofList inside.toList]) →
          buildChoice o next rest = .ok out →
          BuiltOf o (lists ++ Tree.enclosed (.element name attributes children span :: rest))
            (out.bodies.map Body.node) := by
        intro inside next hinside hperm hrest
        have hchildren : buildChildren o children = .ok inside.toList := by
          rw [buildChildren, hinside]
          rfl
        have hall := ih ((hdone.append (.single hchildren)).perm hperm) hrest
        rw [List.append_assoc] at hall
        exact hall
      split at h
      · cases h
      · obtain ⟨test, -, h⟩ := Except.bind_eq_ok.mp h
        obtain ⟨breaks, -, h⟩ := Except.bind_eq_ok.mp h
        obtain ⟨inside, hinside, h⟩ := Except.bind_eq_ok.mp h
        refine hnext hinside ?_ h
        exact (List.perm_append_singleton _ _).symm
      · split at h
        · cases h
        · next hnone =>
          obtain ⟨inside, hinside, h⟩ := Except.bind_eq_ok.mp h
          refine hnext hinside (.of_eq ?_) h
          have hfirst : done.otherwise = none := by simpa using hnone
          simp [Choice.bodies, hfirst, Body.ofList]

/-- A sibling contributes just what is built of what it encloses. -/
theorem Contribution.contents_of_read {c : Contribution} (h : read o t = .ok c) :
    BuiltOf o t.contents c.contents := by
  cases t with
  | text raw span =>
    rw [read] at h
    split at h
    · obtain rfl := Except.ok.inj h
      exact .nil
    · obtain ⟨n, -, rfl⟩ := Except.map_eq_ok.mp h
      exact .nil
  | element name attributes children span =>
    rw [read] at h
    split at h
    · cases h
    · cases h
    · next hkind =>
      obtain ⟨bind, -, h⟩ := Except.bind_eq_ok.mp h
      obtain rfl := Except.ok.inj h
      rw [Tree.contents_of_kind attributes children span hkind]
      exact .nil
    · next tag hkind =>
      obtain ⟨test, -, h⟩ := Except.bind_eq_ok.mp h
      obtain ⟨nodes, hnodes, h⟩ := Except.bind_eq_ok.mp h
      obtain rfl := Except.ok.inj h
      rw [Tree.contents_of_kind attributes children span hkind]
      exact .single hnodes
    · next hkind =>
      obtain ⟨test, -, h⟩ := Except.bind_eq_ok.mp h
      obtain ⟨nodes, hnodes, h⟩ := Except.bind_eq_ok.mp h
      obtain rfl := Except.ok.inj h
      rw [Tree.contents_of_kind attributes children span hkind]
      exact .single hnodes
    · next hkind =>
      obtain ⟨nodes, hnodes, h⟩ := Except.bind_eq_ok.mp h
      obtain rfl := Except.ok.inj h
      rw [Tree.contents_of_kind attributes children span hkind]
      exact .single hnodes
    · next hkind =>
      obtain ⟨choice, hchoice, h⟩ := Except.bind_eq_ok.mp h
      obtain rfl := Except.ok.inj h
      rw [Tree.contents_of_kind attributes children span hkind]
      refine (builtOf_buildChoice .nil hchoice).perm ?_
      simp only [contents, Node.contents, Node.bodies, Choice.bodies, List.map_append,
        List.map_reverse]
      exact (List.reverse_perm _).append_right _
    · next hkind =>
      obtain ⟨head, -, h⟩ := Except.bind_eq_ok.mp h
      obtain ⟨nodes, hnodes, h⟩ := Except.bind_eq_ok.mp h
      obtain rfl := Except.ok.inj h
      rw [Tree.contents_of_kind attributes children span hkind]
      exact .single hnodes

/-- A text has nothing inside. -/
theorem Node.contents_of_textClass? (h : n.textClass?.isSome = true) : n.contents = [] := by
  cases n with
  | text _ | placeholders _ => rfl
  | _ => cases h

/-- A node has inside just what is built of what its siblings enclose. -/
theorem Makes.contents (h : Makes o run n) :
    BuiltOf o (run.flatMap Tree.contents) n.contents := by
  cases h with
  | whole hread =>
    have hcontents := Contribution.contents_of_read hread
    simpa [Contribution.contents] using hcontents
  | @chain first further last branch others otherwise hfirst hfurther hlast =>
    have hothers := BuiltOf.flatMap (f := fun b : Branch => [b.body.node])
      (fun hread => Contribution.contents_of_read hread) hfurther
    have hend := BuiltOf.flatMap (f := fun b : Body => [b.node])
      (fun hread => Contribution.contents_of_read hread) hlast
    have hall := (Contribution.contents_of_read hfirst).append (hothers.append hend)
    simpa [Node.contents, Node.bodies, Contribution.contents, Function.comp_def,
      ← List.map_eq_flatMap] using hall
  | texts hread hjoined =>
    rw [Node.contents_of_textClass? hjoined.isText]
    have hnone := BuiltOf.flatMap (f := fun _ : Node => [])
      (fun hread => Contribution.contents_of_read hread) hread
    rw [List.flatMap_eq_nil_iff.mpr fun _ _ => rfl] at hnone
    exact hnone

-- ============================================================== siblings

/-- The nodes that stand together where this one stands. -/
def Node.siblings : Node → List Node
  | .sequence nodes => nodes
  | n => [n]

/-- An element that is a node by itself is no sequence. -/
theorem Contribution.ne_sequence_of_read (h : read o t = .ok (.whole n)) (nodes : List Node) :
    n ≠ .sequence nodes := by
  rintro rfl
  cases t with
  | text raw span =>
    rw [read] at h
    split at h
    · cases h
    · obtain ⟨_, -, h⟩ := Except.map_eq_ok.mp h
      cases h
  | element name attributes children span =>
    rw [read] at h
    split at h <;> repeat first | cases h | obtain ⟨_, -, h⟩ := Except.bind_eq_ok.mp h

theorem Makes.ne_sequence (h : Makes o run n) (nodes : List Node) : n ≠ .sequence nodes := by
  rintro rfl
  cases h with
  | whole hread => exact Contribution.ne_sequence_of_read hread nodes rfl
  | texts _ hjoined => cases hjoined.isText

theorem ne_sequence_of_buildChildren (h : buildChildren o trees = .ok nodes) :
    ∀ n ∈ nodes, ∀ inner, n ≠ .sequence inner := by
  obtain ⟨runs, -, hmakes, -⟩ := assembled_of_buildChildren h
  intro n hn
  obtain ⟨run, -, hrun⟩ := exists_of_forall₂ hmakes.flip hn
  exact hrun.ne_sequence

/-- What was built as one node or as a sequence of them is told from it again. -/
theorem Node.siblings_ofList (h : buildChildren o trees = .ok nodes) :
    (Node.ofList nodes).siblings = nodes := by
  unfold ofList
  split
  · next n =>
    have hn := ne_sequence_of_buildChildren h n (List.mem_singleton_self n)
    unfold siblings
    split
    · next inner => exact absurd rfl (hn inner)
    · rfl
  · rfl

/-- These nodes, or nodes that stand together somewhere inside of them. -/
inductive Node.SiblingsIn (inner : List Node) : List Node → Prop where
  | here : SiblingsIn inner inner
  | inside {nodes : List Node} {n content : Node} : n ∈ nodes → content ∈ n.contents →
      SiblingsIn inner content.siblings → SiblingsIn inner nodes

/-- These siblings, or siblings that are built somewhere inside of them. -/
inductive Tree.SiblingsIn (inner : List Tree) : List Tree → Prop where
  | here : SiblingsIn inner inner
  | inside {trees content : List Tree} {t : Tree} : t ∈ trees → content ∈ t.contents →
      SiblingsIn inner content → SiblingsIn inner trees

/-- What is inside of a node was built of what one of the siblings encloses. -/
theorem exists_built_of_mem_contents {content : Node} (h : buildChildren o trees = .ok nodes)
    (hn : n ∈ nodes) (hcontent : content ∈ n.contents) :
    ∃ t ∈ trees, ∃ enclosed ∈ t.contents,
      buildChildren o enclosed = .ok content.siblings := by
  obtain ⟨runs, hflatten, hmakes, -⟩ := assembled_of_buildChildren h
  obtain ⟨run, hrun, hmade⟩ := exists_of_forall₂ hmakes.flip hn
  obtain ⟨built, hbuilt, hperm⟩ := Makes.contents hmade
  obtain ⟨inner, hinner, rfl⟩ := List.mem_map.mp (hperm.subset hcontent)
  obtain ⟨enclosed, henclosed, hbuild⟩ := exists_of_forall₂ hbuilt.flip hinner
  obtain ⟨t, ht, hmem⟩ := List.mem_flatMap.mp henclosed
  refine ⟨t, mem_of_mem_run hflatten hrun ht, enclosed, hmem, ?_⟩
  rw [Node.siblings_ofList hbuild]
  exact hbuild

/-- What one of the siblings encloses is inside of a node. -/
theorem exists_mem_contents_of_built {enclosed : List Tree} (h : buildChildren o trees = .ok nodes)
    (ht : t ∈ trees) (henclosed : enclosed ∈ t.contents) :
    ∃ n ∈ nodes, ∃ content ∈ n.contents, buildChildren o enclosed = .ok content.siblings := by
  obtain ⟨runs, hflatten, hmakes, -⟩ := assembled_of_buildChildren h
  have hblank : t.isBlank = false := by
    cases t with
    | text raw span => cases henclosed
    | element name attributes children span => rfl
  have hmem : t ∈ runs.flatten := by
    rw [hflatten]
    exact List.mem_filter.mpr ⟨ht, by rw [hblank]; rfl⟩
  obtain ⟨run, hrun, htrun⟩ := List.mem_flatten.mp hmem
  obtain ⟨n, hn, hmade⟩ := exists_of_forall₂ hmakes hrun
  obtain ⟨built, hbuilt, hperm⟩ := Makes.contents hmade
  obtain ⟨inner, hinner, hbuild⟩ :=
    exists_of_forall₂ hbuilt (List.mem_flatMap.mpr ⟨t, htrun, henclosed⟩)
  refine ⟨n, hn, Node.ofList inner, hperm.mem_iff.mpr (List.mem_map_of_mem hinner), ?_⟩
  rw [Node.siblings_ofList hbuild]
  exact hbuild

/-- Nodes that stand together at any depth were built of siblings, as those at
the top were. -/
theorem exists_built_of_siblingsIn {inner : List Node} (h : buildChildren o trees = .ok nodes)
    (hin : Node.SiblingsIn inner nodes) :
    ∃ siblings, Tree.SiblingsIn siblings trees ∧ buildChildren o siblings = .ok inner := by
  induction hin generalizing trees with
  | here => exact ⟨trees, .here, h⟩
  | inside hn hcontent _ ih =>
    obtain ⟨t, ht, enclosed, henclosed, hbuild⟩ := exists_built_of_mem_contents h hn hcontent
    obtain ⟨siblings, hsiblings, hinner⟩ := ih hbuild
    exact ⟨siblings, .inside ht henclosed hsiblings, hinner⟩

/-- Siblings at any depth became nodes that stand together, as those at the top
did. -/
theorem exists_siblingsIn_of_built {siblings : List Tree} (h : buildChildren o trees = .ok nodes)
    (hin : Tree.SiblingsIn siblings trees) :
    ∃ inner, Node.SiblingsIn inner nodes ∧ buildChildren o siblings = .ok inner := by
  induction hin generalizing nodes with
  | here => exact ⟨nodes, .here, h⟩
  | inside ht henclosed _ ih =>
    obtain ⟨n, hn, content, hcontent, hbuild⟩ := exists_mem_contents_of_built h ht henclosed
    obtain ⟨inner, hinner, hsiblings⟩ := ih hbuild
    exact ⟨inner, .inside hn hcontent hinner, hsiblings⟩

end DynamicSql.Template
