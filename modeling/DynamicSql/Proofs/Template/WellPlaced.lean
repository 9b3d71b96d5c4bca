/-
Which siblings are built, and what becomes of them.

Siblings that are sound by themselves can only be wrong by where they stand: an
`else-if` or an `else` must follow an `if`, a `when` or an `else-if`, with blank text
between them at most. If each does they are built, and if not the first that does
not is complained of (`buildChildren_iff_wellPlaced`).

What is built is told of the siblings as they are written. They fall into runs that
are as long as they can be, and each run becomes one node (`Becomes`): a chain, whose
branches are what its elements say, in order, texts of one class, put together, or a
single element. As the runs are all of the siblings in order, none is left out and
none moved.
-/
import DynamicSql.Proofs.Template.Elements
import DynamicSql.Proofs.Template.NormalTexts

namespace DynamicSql.Template

variable {o : Options} {run trees : List Tree} {n : Node}

-- ================================================================= runs

/-- A run of siblings becomes one node. -/
inductive Becomes (o : Options) : List Tree → Node → Prop where
  /-- A binding, a choice or a loop. -/
  | whole {t : Tree} {n : Node} : t.Says o (.whole n) → Becomes o [t] n
  /-- An `if` or a `when`, any number of `else-if`s, perhaps an `else`. -/
  | chain {first : Tree} {further : List Tree} {last : Option Tree} {branch : Branch}
      {others : List Branch} {otherwise : Option Body} :
      first.Says o (.opening branch) →
      List.Forall₂ (fun t b => t.Says o (.further b)) further others →
      List.Forall₂ (fun t b => t.Says o (.last b)) last.toList otherwise.toList →
      Becomes o (first :: (further ++ last.toList)) (.conditional branch others otherwise)
  /-- Texts of one class. -/
  | texts {run : List Tree} {n : Node} {k : TextClass} : run ≠ [] → (∀ t ∈ run, t.IsText o k) →
      n.IsText k → n.NormalText → PutTogether o run n → Becomes o run n

/-- The nodes are what becomes of the siblings: these fall into runs that are as
long as they can be, and each run becomes one node. -/
def BecomeInOrder (o : Options) (siblings : List Tree) (nodes : List Node) : Prop :=
  ∃ runs : List (List Tree), runs.flatten = siblings ∧ List.Forall₂ (Becomes o) runs nodes
    ∧ runs.IsChain (Apart o)

theorem Makes.becomes (h : Makes o run n) : Becomes o run n := by
  cases h with
  | whole hread => exact .whole (Contribution.says_of_read hread nofun nofun)
  | chain hfirst hfurther hlast =>
    have hothers := hfurther.imp
      fun t b (hb : Contribution.read o t = .ok (.further b)) =>
        Contribution.says_of_read hb nofun nofun
    have hend := hlast.imp
      fun t b (hb : Contribution.read o t = .ok (.last b)) =>
        Contribution.says_of_read hb nofun nofun
    exact .chain (Contribution.says_of_read hfirst nofun nofun) hothers hend
  | texts hread hjoined =>
    have hmakes : Makes o _ n := .texts hread hjoined
    obtain ⟨k, hk⟩ := Option.isSome_iff_exists.mp hjoined.isText
    have hclass : n.IsText k := Node.isText_iff.mpr hk
    exact .texts (List.cons_ne_nil _ _) (fun t ht => (hmakes.isText_iff ht k).mpr hclass) hclass
      hmakes.normalText (hmakes.putTogether hjoined.isText)

-- ================================================================ places

/-- Sound siblings are built exactly if each `else-if` and each `else` among
them directly follows an `if`, a `when` or an `else-if`, blank text aside. If
not, the first that does not is complained about. If so, each chain becomes one
node, and the other siblings become theirs, all in order. -/
theorem buildChildren_iff_wellPlaced (h : ∀ t ∈ trees, t.Sound o) :
    let siblings := trees.filter fun t => !t.isBlank
    ((∃ nodes, buildChildren o trees = .ok nodes) ↔ WellPlaced siblings)
      ∧ (¬WellPlaced siblings → ∃ before t after, siblings = before ++ t :: after
        ∧ WellPlaced before ∧ ¬InPlace before t
        ∧ buildChildren o trees = .error (.danglingElse t.name t.span))
      ∧ ∀ nodes, buildChildren o trees = .ok nodes → BecomeInOrder o siblings nodes := by
  intro siblings
  have hread : ∀ t ∈ siblings, t.isBlank = false ∧ ∃ c, Contribution.read o t = .ok c := by
    intro t ht
    obtain ⟨hmem, hblank⟩ := List.mem_filter.mp ht
    exact ⟨by simpa using hblank, (h t hmem).read⟩
  have hbuild : buildChildren o trees = (buildSiblings o .empty siblings).map Siblings.toList :=
    (buildChildren_filter trees).symm
  have hmisplaced : ¬WellPlaced siblings → ∃ before t after, siblings = before ++ t :: after
      ∧ WellPlaced before ∧ ¬InPlace before t
      ∧ buildChildren o trees = .error (.danglingElse t.name t.span) := by
    intro hnot
    obtain ⟨before, t, after, hsplit, hbefore, ht⟩ := exists_misplaced hnot
    rw [hsplit] at hread hbuild
    refine ⟨before, t, after, hsplit, hbefore, ht, ?_⟩
    rw [hbuild, buildSiblings_misplaced hread hbefore ht]
    rfl
  refine ⟨⟨fun ⟨nodes, hnodes⟩ => ?_, fun hwell => ?_⟩, hmisplaced, fun nodes hnodes => ?_⟩
  · by_contra hnot
    obtain ⟨_, _, _, -, -, -, herror⟩ := hmisplaced hnot
    rw [herror] at hnodes
    cases hnodes
  · obtain ⟨s, hs, -⟩ := buildSiblings_places hread hwell
    exact ⟨s.toList, by rw [hbuild, hs]; rfl⟩
  · obtain ⟨runs, hflatten, hmakes, happart⟩ := assembled_of_buildChildren hnodes
    exact ⟨runs, hflatten, hmakes.imp fun run n => Makes.becomes, happart⟩

/-- A chain whose first branch binds a variable, with blank text in it, and a word
behind it. -/
def bindingChain : List Tree :=
  [.element "if" [("test", "a")]
      [.element "bind" [("name", "n"), ("value", "v")] [] none, .text "x" none] none,
    .text " " none, .element "else-if" [("test", "b")] [.text "y" none] none,
    .element "else" [] [] none, .text "w" none]

/-- The first branch: its body is a sequence, and has a scope of its own. -/
def bindingBranch : Branch :=
  ⟨.if_, "a", ⟨true, .sequence [.bind ⟨"n", "v", none⟩, .text "x"]⟩, none⟩

/-- What becomes of them. -/
def bindingChainNodes : List Node :=
  [.conditional bindingBranch [⟨.elseIf, "b", ⟨false, .text "y"⟩, none⟩]
    (some ⟨false, .sequence []⟩), .text "w"]

theorem read_word {word : String} (hblank : Text.allBlank word = false)
    (hsplit : Segment.split (usedText Options.standard word) = [.literal word]) :
    Contribution.read Options.standard (.text word none) = .ok (.text (.text word)) := by
  rw [Contribution.read, hblank, Node.ofText_of_literal hsplit]
  rfl

theorem says_bind : Tree.Says Options.standard
    (.element "bind" [("name", "n"), ("value", "v")] [] none)
    (.whole (.bind ⟨"n", "v", none⟩)) :=
  @Tree.Says.bind _ _ _ ⟨"n", "v", none⟩ ⟨[], _, rfl, by simp⟩ ⟨[("name", "n")], [], rfl, by simp⟩

theorem says_bindingBranch : Tree.Says Options.standard
    (.element "if" [("test", "a")]
      [.element "bind" [("name", "n"), ("value", "v")] [] none, .text "x" none] none)
    (.opening bindingBranch) := by
  have hinside : buildChildren Options.standard
      [.element "bind" [("name", "n"), ("value", "v")] [] none, .text "x" none]
        = .ok [.bind ⟨"n", "v", none⟩, .text "x"] := by
    rw [buildChildren, buildSiblings_of_add (Contribution.read_eq_ok_iff.mpr says_bind) rfl,
      buildSiblings_of_add (read_word (by decide) (by decide +kernel)) rfl, buildSiblings]
    rfl
  have hbranch : Branch.IsOf Options.standard [("test", "a")] _ bindingBranch :=
    ⟨⟨[], [], rfl, by simp⟩, Body.isOf_iff.mpr ⟨_, hinside, rfl⟩⟩
  exact .opening (.inl ⟨rfl, rfl⟩) hbranch

theorem says_furtherBranch : Tree.Says Options.standard
    (.element "else-if" [("test", "b")] [.text "y" none] none)
    (.further ⟨.elseIf, "b", ⟨false, .text "y"⟩, none⟩) := by
  have hinside : buildChildren Options.standard [.text "y" none] = .ok [.text "y"] := by
    rw [buildChildren, buildSiblings_of_add (read_word (by decide) (by decide +kernel)) rfl,
      buildSiblings]
    rfl
  have hbranch : Branch.IsOf Options.standard [("test", "b")] _
      ⟨.elseIf, "b", ⟨false, .text "y"⟩, none⟩ :=
    ⟨⟨[], [], rfl, by simp⟩, Body.isOf_iff.mpr ⟨_, hinside, rfl⟩⟩
  exact .further rfl hbranch

theorem says_emptyElse : Tree.Says Options.standard (.element "else" [] [] none)
    (.last ⟨false, .sequence []⟩) := by
  have hinside : buildChildren Options.standard [] = .ok [] := by
    rw [buildChildren, buildSiblings]
    rfl
  exact .last (Body.isOf_iff.mpr ⟨_, hinside, rfl⟩)

theorem buildSiblings_bindingChain :
    buildSiblings Options.standard .empty bindingChain
      = .ok ⟨bindingChainNodes.reverse, none⟩ := by
  have hblank : Contribution.read Options.standard (.text " " none) = .ok .nothing := rfl
  rw [bindingChain,
    buildSiblings_of_add (Contribution.read_eq_ok_iff.mpr says_bindingBranch) rfl,
    buildSiblings_of_add hblank rfl,
    buildSiblings_of_add (Contribution.read_eq_ok_iff.mpr says_furtherBranch) rfl,
    buildSiblings_of_add (Contribution.read_eq_ok_iff.mpr says_emptyElse) rfl,
    buildSiblings_of_add (read_word (by decide) (by decide +kernel)) rfl, buildSiblings]
  rfl

theorem sound_bindingChain : ∀ t ∈ bindingChain, t.Sound Options.standard := by
  have hword : ∀ text ∈ [" ", "w"], (Tree.text text none).Sound Options.standard := by
    intro text htext
    have hnone : ∀ text ∈ [" ", "w"],
        (Segment.split (Text.collapse text)).any isPlaceholder = false := by decide +kernel
    exact .text fun content hmem =>
      absurd (List.any_eq_true.mpr ⟨_, hmem, rfl⟩) (Bool.eq_false_iff.mp (hnone text htext))
  intro t ht
  simp only [bindingChain, List.mem_cons, List.not_mem_nil, or_false] at ht
  rcases ht with rfl | rfl | rfl | rfl | rfl
  · exact says_bindingBranch.sound
  · exact hword " " (by simp)
  · exact says_furtherBranch.sound
  · exact says_emptyElse.sound
  · exact hword "w" (by simp)

/-- It is built to these nodes. An `else` behind the word is out of place, and is
complained of. -/
theorem buildChildren_iff_wellPlaced_of_bindingChain :
    (∀ t ∈ bindingChain ++ [Tree.element "else" [] [] none], t.Sound Options.standard)
      ∧ buildChildren Options.standard bindingChain = .ok bindingChainNodes
      ∧ WellPlaced (bindingChain.filter fun t => !t.isBlank)
      ∧ BecomeInOrder Options.standard (bindingChain.filter fun t => !t.isBlank) bindingChainNodes
      ∧ ¬WellPlaced ((bindingChain ++ [Tree.element "else" [] [] none]).filter fun t => !t.isBlank)
      ∧ buildChildren Options.standard (bindingChain ++ [Tree.element "else" [] [] none])
        = .error (.danglingElse "else" none) := by
  have hbuild : buildChildren Options.standard bindingChain = .ok bindingChainNodes := by
    rw [buildChildren, buildSiblings_bindingChain]
    rfl
  have herror : buildChildren Options.standard (bindingChain ++ [Tree.element "else" [] [] none])
      = .error (.danglingElse "else" none) := by
    rw [buildChildren, buildSiblings_append, buildSiblings_bindingChain]
    show (buildSiblings _ ⟨bindingChainNodes.reverse, none⟩ _).map _ = _
    rw [buildSiblings_of_read (Contribution.read_eq_ok_iff.mpr says_emptyElse)]
    rfl
  have hsound : ∀ t ∈ bindingChain ++ [Tree.element "else" [] [] none],
      t.Sound Options.standard := fun t ht => by
    rcases List.mem_append.mp ht with ht | ht
    · exact sound_bindingChain t ht
    · obtain rfl := List.mem_singleton.mp ht
      exact says_emptyElse.sound
  obtain ⟨hiff, -, hbecome⟩ := buildChildren_iff_wellPlaced sound_bindingChain
  refine ⟨hsound, hbuild, hiff.mp ⟨_, hbuild⟩, hbecome _ hbuild, fun hwell => ?_, herror⟩
  obtain ⟨nodes, hnodes⟩ := (buildChildren_iff_wellPlaced hsound).1.mpr hwell
  rw [herror] at hnodes
  cases hnodes

end DynamicSql.Template
