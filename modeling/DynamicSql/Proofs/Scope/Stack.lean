/-
Scopes entered and left in the order of a stack.

A render never addresses any scope but the innermost one, and leaves scopes
in the opposite order in which it entered them. Then the store of scopes
with its pool is a stack of bindings: entering puts empty bindings on top,
leaving takes the top off, a name is looked up from the top downward, and
writing concerns the top alone.

# What has to be ruled out

The store reuses scopes that were put aside. A scope just entered could be
one that is still in use, or could still hold variables of its former life.
Neither happens: the scopes of the stack and those put aside are all
different (`distinct`), and those put aside are empty and have nothing
around them (`pooled`).
-/
import DynamicSql.Scope
import Mathlib.Data.List.Perm.Subperm

namespace DynamicSql

/-- Scopes with their variables, the innermost first. -/
abbrev ScopeStack := List (ScopeId × Bindings Value)

namespace ScopeStack

/-- The innermost scope. -/
def top? (stack : ScopeStack) : Option ScopeId := stack.head?.map Prod.fst

def ids (stack : ScopeStack) : List ScopeId := stack.map Prod.fst

/-- What a name is bound to, from the innermost scope outward. -/
def find? (stack : ScopeStack) (name : String) : Option Value :=
  stack.findSome? fun scope => Bindings.find? scope.2 name

theorem find?_cons (id : ScopeId) (vars : Bindings Value) (rest : ScopeStack) (name : String) :
    find? ((id, vars) :: rest) name = (Bindings.find? vars name <|> find? rest name) := by
  unfold find?
  rw [List.findSome?_cons]
  cases Bindings.find? vars name <;> rfl

/-- A scope without variables hides nothing. -/
@[simp] theorem find?_cons_nil (id : ScopeId) (rest : ScopeStack) (name : String) :
    find? ((id, []) :: rest) name = find? rest name := rfl

end ScopeStack

namespace ScopeTree

/-- Each scope of the stack is in the store, and the one around it is the
next of the stack. -/
def Chain (tree : ScopeTree) : ScopeStack → Prop
  | [] => True
  | (id, vars) :: rest =>
    tree.scopes[id]? = some ⟨vars, ScopeStack.top? rest⟩ ∧ Chain tree rest

/-- The store holds a stack of scopes, and besides only empty ones. -/
structure Stacked (tree : ScopeTree) (stack : ScopeStack) : Prop where
  chain : tree.Chain stack
  distinct : (stack.ids ++ tree.pool).Nodup
  pooled : ∀ id ∈ tree.pool, tree.scopes[id]? = some ⟨[], none⟩

/-- What is done to other scopes does not concern the stack. -/
theorem Chain.congr {tree tree' : ScopeTree} {stack : ScopeStack}
    (h : ∀ id ∈ stack.ids, tree'.scopes[id]? = tree.scopes[id]?) (hc : tree.Chain stack) :
    tree'.Chain stack := by
  induction stack with
  | nil => trivial
  | cons scope rest ih =>
    obtain ⟨id, vars⟩ := scope
    refine ⟨?_, ih (fun id' hid => h id' (List.mem_cons_of_mem _ hid)) hc.2⟩
    rw [h id (List.mem_cons_self ..)]
    exact hc.1

theorem Chain.lt_length {tree : ScopeTree} {stack : ScopeStack} (hc : tree.Chain stack) :
    ∀ id ∈ stack.ids, id < tree.scopes.length := by
  induction stack with
  | nil =>
    intro id hid
    cases hid
  | cons scope rest ih =>
    intro id hid
    rcases List.mem_cons.mp hid with rfl | hid
    · exact (List.getElem?_eq_some_iff.mp hc.1).1
    · exact ih hc.2 id hid

/-- The store of the arguments alone. -/
theorem stacked_withArguments (arguments : Arguments) :
    (withArguments arguments).Stacked [(root, arguments)] where
  chain := ⟨rfl, trivial⟩
  distinct := List.nodup_cons.mpr ⟨List.not_mem_nil, List.nodup_nil⟩
  pooled _ h := nomatch h

namespace Stacked

variable {tree : ScopeTree} {id outer : ScopeId} {vars vars' : Bindings Value}
  {stack rest : ScopeStack}

-- ============================================================== reading

/-- No more scopes are in the stack than in the store, so that a walk
outward comes to its end. -/
theorem length_le (h : tree.Stacked stack) : stack.length ≤ tree.scopes.length := by
  have hnodup : stack.ids.Nodup := (List.nodup_append.mp h.distinct).1
  have hsub : stack.ids ⊆ List.range tree.scopes.length := fun id hid =>
    List.mem_range.mpr (h.chain.lt_length id hid)
  have hle := (List.subperm_of_subset hnodup hsub).length_le
  rw [ScopeStack.ids, List.length_map, List.length_range] at hle
  exact hle

/-- A walk outward visits the scopes of the stack. -/
theorem bind_ownerWithin (hc : tree.Chain ((id, vars) :: rest)) (name : String) {steps : Nat}
    (hsteps : rest.length < steps) :
    (tree.ownerWithin name steps id).bind (fun owner => Bindings.find? (tree.localVars owner) name)
      = ScopeStack.find? ((id, vars) :: rest) name := by
  induction rest generalizing id vars steps with
  | nil =>
    obtain ⟨steps, rfl⟩ : ∃ n, steps = n + 1 := ⟨steps - 1, by simp at hsteps; omega⟩
    have hvars : tree.localVars id = vars := by rw [localVars, hc.1]; rfl
    have hparent : tree.parent id = none := by rw [parent, hc.1]; rfl
    rw [ownerWithin, containsLocal, hvars, hparent, ScopeStack.find?_cons]
    cases hf : Bindings.find? vars name with
    | none => simp [Bindings.contains, hf, ScopeStack.find?]
    | some v => simp [Bindings.contains, hf, hvars]
  | cons scope rest ih =>
    obtain ⟨next, nextVars⟩ := scope
    obtain ⟨steps, rfl⟩ : ∃ n, steps = n + 1 := ⟨steps - 1, by simp at hsteps; omega⟩
    have hvars : tree.localVars id = vars := by rw [localVars, hc.1]; rfl
    have hparent : tree.parent id = some next := by rw [parent, hc.1]; rfl
    have hrest : rest.length < steps := by simp at hsteps; omega
    rw [ownerWithin, containsLocal, hvars, hparent, ScopeStack.find?_cons]
    cases hf : Bindings.find? vars name with
    | none =>
      simp only [Bindings.contains, hf, Option.isSome_none, Bool.false_eq_true, if_false,
        Option.bind_some]
      exact ih hc.2 hrest
    | some v => simp [Bindings.contains, hf, hvars]

/-- What is seen from the innermost scope is what is found in the stack. -/
theorem view_eq (h : tree.Stacked ((id, vars) :: rest)) (name : String) :
    tree.view id name = ScopeStack.find? ((id, vars) :: rest) name :=
  bind_ownerWithin h.chain name h.length_le

-- ============================================================== writing

/-- A variable is bound in the innermost scope. -/
theorem put (h : tree.Stacked ((id, vars) :: rest)) (name : String) (value : Value) :
    (tree.put id name value).2.Stacked ((id, vars.insert name value) :: rest) := by
  have hvars : tree.localVars id = vars := by rw [localVars, h.chain.1]; rfl
  have hid : id ∉ rest.ids ++ tree.pool := (List.nodup_cons.mp h.distinct).1
  have hother : ∀ other ∈ rest.ids ++ tree.pool,
      (tree.put id name value).2.scopes[other]? = tree.scopes[other]? := by
    intro other hother
    exact List.getElem?_modify_ne _ _ fun heq => hid (heq ▸ hother)
  refine ⟨⟨?_, h.chain.2.congr fun other ho => hother other (List.mem_append_left _ ho)⟩,
    h.distinct, fun other ho => ?_⟩
  · show (tree.scopes.modify id _)[id]? = _
    rw [List.getElem?_modify_eq, h.chain.1, hvars]
    rfl
  · rw [hother other (List.mem_append_right _ ho)]
    exact h.pooled other ho

-- ==================================================== entering, leaving

/-- Entering puts empty bindings on top, in a scope that was not in use. -/
theorem acquire (h : tree.Stacked ((id, vars) :: rest)) :
    (tree.acquire id).2.Stacked (((tree.acquire id).1, []) :: (id, vars) :: rest) := by
  cases hp : tree.pool with
  | nil =>
    have hacquire : tree.acquire id
        = (tree.scopes.length, ⟨tree.scopes ++ [⟨[], some id⟩], []⟩) := by
      rw [ScopeTree.acquire, hp]
    rw [hacquire]
    have hlt := h.chain.lt_length
    have hold : ∀ other ∈ ScopeStack.ids ((id, vars) :: rest),
        (tree.scopes ++ [⟨[], some id⟩])[other]? = tree.scopes[other]? := fun other ho =>
      List.getElem?_append_left (hlt other ho)
    have hnew : tree.scopes.length ∉ ScopeStack.ids ((id, vars) :: rest) := fun hmem =>
      Nat.lt_irrefl _ (hlt _ hmem)
    refine ⟨⟨List.getElem?_concat_length, h.chain.congr hold⟩, ?_, fun _ ho => nomatch ho⟩
    have hnodup := h.distinct
    rw [hp, List.append_nil] at hnodup
    show (tree.scopes.length :: (ScopeStack.ids ((id, vars) :: rest) ++ [])).Nodup
    rw [List.append_nil]
    exact List.nodup_cons.mpr ⟨hnew, hnodup⟩
  | cons fresh pool =>
    have hacquire : tree.acquire id
        = (fresh, ⟨tree.scopes.modify fresh fun scope => { scope with parent := some id },
          pool⟩) := by
      rw [ScopeTree.acquire, hp]
    rw [hacquire]
    have hnodup := h.distinct
    rw [hp] at hnodup
    have hempty := h.pooled fresh (by rw [hp]; exact List.mem_cons_self ..)
    have hfresh : (fresh :: (ScopeStack.ids ((id, vars) :: rest) ++ pool)).Nodup :=
      List.perm_middle.nodup_iff.mp hnodup
    have hother : ∀ other ∈ ScopeStack.ids ((id, vars) :: rest) ++ pool,
        (tree.scopes.modify fresh fun scope => { scope with parent := some id })[other]?
          = tree.scopes[other]? := by
      intro other ho
      exact List.getElem?_modify_ne _ _ fun heq => (List.nodup_cons.mp hfresh).1 (heq ▸ ho)
    refine ⟨⟨?_, h.chain.congr fun other ho => hother other (List.mem_append_left _ ho)⟩,
      hfresh, fun other ho => ?_⟩
    · show (tree.scopes.modify fresh _)[fresh]? = _
      rw [List.getElem?_modify_eq, hempty]
      rfl
    · refine (hother other (List.mem_append_right _ ho)).trans (h.pooled other ?_)
      rw [hp]
      exact List.mem_cons_of_mem _ ho

/-- Leaving takes the top off. -/
theorem release (h : tree.Stacked ((id, vars) :: (outer, vars') :: rest)) :
    (tree.release id).1 = some outer
      ∧ (tree.release id).2.Stacked ((outer, vars') :: rest) := by
  have hparent : tree.parent id = some outer := by rw [parent, h.chain.1]; rfl
  rw [ScopeTree.release, hparent]
  have hid : id ∉ ScopeStack.ids ((outer, vars') :: rest) ++ tree.pool :=
    (List.nodup_cons.mp h.distinct).1
  have hother : ∀ other ∈ ScopeStack.ids ((outer, vars') :: rest) ++ tree.pool,
      (tree.scopes.modify id fun _ => ⟨[], none⟩)[other]? = tree.scopes[other]? := by
    intro other ho
    exact List.getElem?_modify_ne _ _ fun heq => hid (heq ▸ ho)
  refine ⟨rfl, h.chain.2.congr fun other ho => hother other (List.mem_append_left _ ho), ?_, ?_⟩
  · exact List.perm_middle.nodup_iff.mpr h.distinct
  · intro other ho
    rcases List.mem_cons.mp ho with rfl | ho
    · show (tree.scopes.modify other _)[other]? = _
      rw [List.getElem?_modify_eq, h.chain.1]
      rfl
    · exact (hother other (List.mem_append_right _ ho)).trans (h.pooled other ho)

end Stacked

end ScopeTree

end DynamicSql
