/-
How a chain of conditions is built of the elements that it is written as.

A chain is written as an `if`, any number of `else-if`s and perhaps an `else`,
which are siblings (`IfChain`). It becomes a single node, with one branch for
each of its arms in the order in which they are written
(`IfChain.buildChildren`). Blank text between them is nothing
(`buildSiblings_filter`), so a chain may be written over several lines.

While the siblings are built, the chain is the one that is open. It is closed
only when something else follows, so the induction over the arms is about what
the open chain has grown to.
-/
import DynamicSql.Proofs.Template.Built

namespace DynamicSql.Template

variable {options : Options} {done : Siblings}

-- =========================================================== blank text

/-- True of characters that are all blank. -/
def Tree.isBlank : Tree → Bool
  | .text content _ => Text.allBlank content
  | .element _ _ _ _ => false

/-- Blank text is as good as absent. -/
theorem buildSiblings_filter (trees : List Tree) :
    buildSiblings options done (trees.filter fun t => !t.isBlank)
      = buildSiblings options done trees := by
  induction trees generalizing done with
  | nil => rfl
  | cons tree rest ih =>
    cases tree with
    | text raw span =>
      cases hblank : Text.allBlank raw with
      | true =>
        rw [List.filter_cons_of_neg (by simp [Tree.isBlank, hblank]), ih, buildSiblings,
          Siblings.pushRun, if_pos hblank]
        rfl
      | false =>
        rw [List.filter_cons_of_pos (by simp [Tree.isBlank, hblank]), buildSiblings, buildSiblings]
        exact congrArg (Bind.bind _) (funext fun next => ih)
    | element name attributes children span =>
      rw [List.filter_cons_of_pos rfl, buildSiblings, buildSiblings]
      simp only [ih]

theorem buildChildren_filter (trees : List Tree) :
    buildChildren options (trees.filter fun t => !t.isBlank) = buildChildren options trees :=
  congrArg (Except.map Siblings.toList) (buildSiblings_filter trees)

-- =============================================================== chains

/-- An `if` or an `else-if` as it is written. -/
structure Arm where
  attributes : Attributes
  content : List Tree
  span : Option Span
  test : String
  hasTest : attributes.find? "test" = some test

/-- An `else` as it is written. -/
structure LastArm where
  attributes : Attributes
  content : List Tree
  span : Option Span

/-- A chain as it is written: an `if`, then `else-if`s, then perhaps an
`else`. -/
structure IfChain where
  first : Arm
  others : List Arm
  otherwise : Option LastArm

/-- The nodes that well-formed content becomes. -/
def nodesOf (options : Options) (content : List Tree) : List Node :=
  match buildChildren options content with
  | .ok nodes => nodes
  | .error _ => []

/-- What is in the content can be built. -/
def WellBuilt (options : Options) (content : List Tree) : Prop :=
  buildChildren options content = .ok (nodesOf options content)

theorem nodesOf_eq {content : List Tree} {nodes : List Node}
    (h : buildChildren options content = .ok nodes) : nodesOf options content = nodes := by
  rw [nodesOf, h]

theorem wellBuilt_of_eq_ok {content : List Tree} {nodes : List Node}
    (h : buildChildren options content = .ok nodes) : WellBuilt options content := by
  rw [WellBuilt, nodesOf_eq h, h]

@[simp] theorem nodesOf_nil : nodesOf options [] = [] := by
  refine nodesOf_eq ?_
  rw [buildChildren, buildSiblings]
  rfl

/-- Well-formed content is built in siblings of its own. -/
theorem WellBuilt.siblings {content : List Tree} (h : WellBuilt options content) :
    ∃ inside, buildSiblings options .empty content = .ok inside
      ∧ inside.toList = nodesOf options content :=
  Except.map_eq_ok.mp h

namespace Arm

/-- The element of the arm. -/
def tree (tag : BranchTag) (a : Arm) : Tree :=
  .element tag.name a.attributes a.content a.span

/-- The branch that the arm becomes. -/
def branch (options : Options) (tag : BranchTag) (a : Arm) : Branch :=
  ⟨tag, a.test, Body.ofList (nodesOf options a.content), a.span⟩

theorem requiredAttribute_test (tag : BranchTag) (a : Arm) :
    requiredAttribute tag.name a.attributes a.span "test" = .ok a.test := by
  rw [requiredAttribute, a.hasTest]

end Arm

/-- An `if` opens a chain. -/
theorem buildSiblings_if {a : Arm} (h : WellBuilt options a.content) (rest : List Tree) :
    buildSiblings options done (a.tree .if_ :: rest)
      = buildSiblings options (done.openChain (a.branch options .if_)) rest := by
  obtain ⟨inside, hinside, hnodes⟩ := h.siblings
  have hkind : ElementKind.ofName? BranchTag.if_.name = some (.branch .if_) := rfl
  rw [Arm.tree, buildSiblings, hkind]
  simp only [a.requiredAttribute_test, hinside]
  rw [Arm.branch, ← hnodes]
  rfl

/-- Each `else-if` extends it by a branch. -/
theorem buildSiblings_elseIfs {arms : List Arm} (h : ∀ a ∈ arms, WellBuilt options a.content)
    (built : List Node) (first : Branch) (others : List Branch) (rest : List Tree) :
    buildSiblings options ⟨built, some ⟨first, others, none⟩⟩
        (arms.map (Arm.tree .elseIf) ++ rest)
      = buildSiblings options
          ⟨built, some ⟨first, others ++ arms.map (Arm.branch options .elseIf), none⟩⟩ rest := by
  induction arms generalizing others with
  | nil => rw [List.map_nil, List.map_nil, List.append_nil, List.nil_append]
  | cons a arms ih =>
    obtain ⟨inside, hinside, hnodes⟩ := (h a (List.mem_cons_self ..)).siblings
    have hstep : ∀ trees, buildSiblings options ⟨built, some ⟨first, others, none⟩⟩
        (a.tree .elseIf :: trees)
          = buildSiblings options
              ⟨built, some ⟨first, others ++ [a.branch options .elseIf], none⟩⟩ trees := by
      intro trees
      have hkind : ElementKind.ofName? BranchTag.elseIf.name = some .elseIf := rfl
      rw [Arm.tree, buildSiblings, hkind]
      simp only [a.requiredAttribute_test, hinside]
      rw [Arm.branch, ← hnodes]
      rfl
    rw [List.map_cons, List.cons_append, hstep,
      ih (fun b hb => h b (List.mem_cons_of_mem _ hb)), List.map_cons, List.append_assoc]
    rfl

namespace IfChain

variable (chain : IfChain)

def arms : List Arm := chain.first :: chain.others

/-- The elements of the chain. -/
def trees : List Tree :=
  chain.first.tree .if_ :: (chain.others.map (Arm.tree .elseIf)
    ++ chain.otherwise.toList.map fun e => .element "else" e.attributes e.content e.span)

/-- What is done when no test holds; without an `else` it is nothing. -/
def rest : List Tree :=
  match chain.otherwise with
  | some e => e.content
  | none => []

/-- What the elements of the chain enclose. -/
def contents : List (List Tree) :=
  chain.arms.map Arm.content ++ chain.otherwise.toList.map LastArm.content

/-- The branches of the chain. -/
def branches (options : Options) : List Branch :=
  chain.first.branch options .if_ :: chain.others.map (Arm.branch options .elseIf)

/-- The node that the chain becomes. -/
def node (options : Options) : Node :=
  .conditional (chain.first.branch options .if_) (chain.others.map (Arm.branch options .elseIf))
    (chain.otherwise.map fun e => Body.ofList (nodesOf options e.content))

/-- How an arm is written that stands after some others. -/
def tagAfter : List Arm → BranchTag
  | [] => .if_
  | _ :: _ => .elseIf

variable {chain}

theorem map_test_branches (options : Options) :
    (chain.branches options).map Branch.test = chain.arms.map Arm.test := by
  rw [branches, arms, List.map_cons, List.map_cons, List.map_map]
  rfl

/-- The branch of an arm stands where the arm does. -/
theorem branches_eq_append (options : Options) {before after : List Arm} {a : Arm}
    (h : chain.arms = before ++ a :: after) :
    ∃ passed later, chain.branches options = passed ++ a.branch options (tagAfter before) :: later
      ∧ passed.map Branch.test = before.map Arm.test := by
  cases before with
  | nil =>
    obtain ⟨rfl, -⟩ := List.cons.inj h
    exact ⟨[], _, rfl, rfl⟩
  | cons first before =>
    rw [List.cons_append] at h
    obtain ⟨rfl, hothers⟩ := List.cons.inj h
    refine ⟨chain.first.branch options .if_ :: before.map (Arm.branch options .elseIf),
      after.map (Arm.branch options .elseIf), ?_, ?_⟩
    · rw [branches, hothers, List.map_append, List.map_cons]
      rfl
    · rw [List.map_cons, List.map_cons, List.map_map]
      rfl

/-- A chain is built if all that its elements enclose is, and is one node
then. -/
theorem buildChildren_trees (h : ∀ c ∈ chain.contents, WellBuilt options c) :
    buildChildren options chain.trees = .ok [chain.node options] := by
  have hfirst : WellBuilt options chain.first.content := h _ (List.mem_cons_self ..)
  have hothers : ∀ a ∈ chain.others, WellBuilt options a.content := fun a ha =>
    h _ (List.mem_append_left _ (List.mem_cons_of_mem _ (List.mem_map_of_mem ha)))
  rw [buildChildren, trees, buildSiblings_if hfirst]
  show (buildSiblings options ⟨[], some ⟨_, [], none⟩⟩ _).map _ = _
  rw [buildSiblings_elseIfs hothers, List.nil_append, node]
  cases hlast : chain.otherwise with
  | none =>
    rw [Option.toList_none, List.map_nil, buildSiblings]
    rfl
  | some e =>
    have he : WellBuilt options e.content := by
      refine h _ (List.mem_append_right _ ?_)
      rw [hlast]
      exact List.mem_cons_self ..
    obtain ⟨inside, hinside, hnodes⟩ := he.siblings
    have hkind : ElementKind.ofName? "else" = some .else_ := rfl
    rw [Option.toList_some, List.map_cons, List.map_nil, buildSiblings, hkind]
    simp only [hinside]
    rw [Option.map_some, ← hnodes]
    show (buildSiblings options ⟨[], some ⟨_, _, some _⟩⟩ []).map _ = _
    rw [buildSiblings]
    rfl

/-- So is a chain with blank text around its elements and between them. -/
theorem buildChildren_content {content : List Tree}
    (hcontent : content.filter (fun t => !t.isBlank) = chain.trees)
    (h : ∀ c ∈ chain.contents, WellBuilt options c) :
    buildChildren options content = .ok [chain.node options] := by
  rw [← buildChildren_filter, hcontent, buildChildren_trees h]

end IfChain

end DynamicSql.Template
