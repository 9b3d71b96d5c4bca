/-
How many scopes a context makes, and how deep it has been.

A scope is entered from the pool if there is one put aside, and made anew only
if there is none. A context enters and leaves scopes in the order of a stack,
so each scope of its store is one of the stack or put aside, and none is lost
(`Context.Tidy`). If the pool is empty, then the stack is the whole store, and
the scope that is entered lies deeper than any one before. That is the step:
whatever a context does, its store grows to hold the depth that it comes to,
and no further (`Tidy.move`). Over a run the size of the store is the greatest
depth so far, and one for the root (`Tidy.length_afterMoves`).
-/
import DynamicSql.Proofs.Render.LoopScope
import DynamicSql.Proofs.Scope.Session

namespace DynamicSql

-- ================================================================ depth

namespace ScopeTree

/-- How many scopes lie around a scope, on a walk outward of so many steps. -/
def depthWithin (tree : ScopeTree) : (steps : Nat) → ScopeId → Nat
  | 0, _ => 0
  | steps + 1, id =>
    match tree.parent id with
    | some up => tree.depthWithin steps up + 1
    | none => 0

/-- A walk from the top of a stack goes through all scopes below. -/
theorem Chain.depthWithin {tree : ScopeTree} {id : ScopeId} {vars : Bindings Value}
    {rest : ScopeStack} (h : tree.Chain ((id, vars) :: rest)) {steps : Nat}
    (hsteps : rest.length ≤ steps) : tree.depthWithin steps id = rest.length := by
  induction rest generalizing id vars steps with
  | nil =>
    have hparent : tree.parent id = none := by rw [parent, h.1]; rfl
    cases steps with
    | zero => rfl
    | succ steps => rw [ScopeTree.depthWithin, hparent]; rfl
  | cons scope rest ih =>
    obtain ⟨up, vars'⟩ := scope
    have hparent : tree.parent id = some up := by rw [parent, h.1]; rfl
    cases steps with
    | zero => exact absurd hsteps (Nat.not_succ_le_zero _)
    | succ steps =>
      rw [ScopeTree.depthWithin, hparent]
      exact congrArg (· + 1) (ih h.2 (Nat.le_of_succ_le_succ hsteps))

/-- A store grows when nothing is put aside, and else the pool shrinks. -/
theorem length_acquire (tree : ScopeTree) (id : ScopeId) :
    tree.pooled = 0 ∧ (tree.acquire id).2.pooled = 0
        ∧ (tree.acquire id).2.scopes.length = tree.scopes.length + 1
      ∨ tree.pooled = (tree.acquire id).2.pooled + 1
        ∧ (tree.acquire id).2.scopes.length = tree.scopes.length := by
  unfold acquire pooled
  cases tree.pool with
  | nil => exact .inl ⟨rfl, rfl, List.length_append⟩
  | cons fresh pool => exact .inr ⟨rfl, List.length_modify ..⟩

end ScopeTree

namespace Context

/-- How many scopes lie around the innermost one. -/
def depth (c : Context) : Nat := c.scopes.depthWithin c.scopes.scopes.length c.current

/-- The scopes in sight are a stack, and all others are put aside. -/
def Tidy (c : Context) : Prop :=
  ∃ stack, c.Stacked stack ∧ stack.length + c.scopes.pooled = c.scopes.scopes.length

variable {c d : Context} {stack : ScopeStack}

theorem Stacked.length_eq (h : c.Stacked stack) : stack.length = c.depth + 1 := by
  cases stack with
  | nil => cases h.2
  | cons scope rest =>
    obtain ⟨id, vars⟩ := scope
    have hle : rest.length ≤ c.scopes.scopes.length := Nat.le_of_succ_le h.1.length_le
    rw [depth, h.current, h.1.chain.depthWithin hle]
    rfl

/-- Equally many scopes in the store and around the innermost one, and none
of them is lost. -/
structure Level (c d : Context) : Prop where
  tidy : d.Tidy
  depth : d.depth = c.depth
  length : d.scopes.scopes.length = c.scopes.scopes.length

namespace Level

theorem of_eq (hc : c.Tidy) (hscopes : d.scopes = c.scopes) (hcurrent : d.current = c.current) :
    Level c d := by
  obtain ⟨stack, hstack, hlength⟩ := hc
  refine ⟨⟨stack, ⟨?_, ?_⟩, ?_⟩, ?_, ?_⟩
  · rw [hscopes]
    exact hstack.1
  · rw [hcurrent]
    exact hstack.2
  · rw [hscopes]
    exact hlength
  · rw [Context.depth, Context.depth, hscopes, hcurrent]
  · rw [hscopes]

theorem trans {e : Context} (h : Level c d) (h' : Level d e) : Level c e :=
  ⟨h'.tidy, h'.depth.trans h.depth, h'.length.trans h.length⟩

end Level

namespace Tidy

theorem start (arguments : Arguments) : (Context.start arguments).Tidy :=
  ⟨_, stacked_start arguments, rfl⟩

/-- A scope of the store is the innermost one, around it, or put aside. -/
theorem length_eq (h : c.Tidy) :
    c.scopes.scopes.length = 1 + c.depth + c.scopes.pooled := by
  obtain ⟨stack, hstack, hlength⟩ := h
  rw [← hlength, hstack.length_eq, Nat.add_comm 1]

theorem put (h : c.Tidy) (name : String) (value : Value) : Level c (c.put name value) := by
  obtain ⟨stack, hstack, hlength⟩ := h
  cases stack with
  | nil => cases hstack.2
  | cons scope rest =>
    obtain ⟨id, vars⟩ := scope
    have hput := hstack.put name value
    have hsize : (c.put name value).scopes.scopes.length = c.scopes.scopes.length :=
      List.length_modify ..
    refine ⟨⟨_, hput, hlength.trans hsize.symm⟩, ?_, hsize⟩
    have hdepth := hput.length_eq.symm.trans hstack.length_eq
    exact Nat.succ.inj hdepth

theorem putLoopVariable (h : c.Tidy) (unique : Nat) (name : Option String) (value : Value) :
    Level c (c.putLoopVariable unique name value) := by
  cases name with
  | none => exact .of_eq h rfl rfl
  | some name =>
    have hown := h.put (LoopVariable.uniqueName name unique) value
    exact hown.trans (hown.tidy.put name value)

-- ==================================================== entering, leaving

/-- A scope that is entered is a new one just if all others are in use. -/
theorem pushScope (h : c.Tidy) :
    c.pushScope.Tidy ∧ c.pushScope.depth = c.depth + 1
      ∧ c.pushScope.scopes.scopes.length = max c.scopes.scopes.length (c.depth + 2) := by
  have hsize := h.length_eq
  obtain ⟨stack, hstack, hlength⟩ := h
  obtain ⟨id, hpush⟩ := hstack.pushScope
  have hdepth : c.pushScope.depth + 1 = c.depth + 1 + 1 := by
    rw [← hpush.length_eq, List.length_cons, hstack.length_eq]
  have hgrown := c.scopes.length_acquire c.current
  refine ⟨⟨_, hpush, ?_⟩, Nat.succ.inj hdepth, ?_⟩
  · show stack.length + 1 + (c.scopes.acquire c.current).2.pooled
      = (c.scopes.acquire c.current).2.scopes.length
    omega
  · show (c.scopes.acquire c.current).2.scopes.length = _
    omega

/-- A scope that is left is put aside. -/
theorem popScope (h : c.Tidy) (hinside : c.depth ≠ 0) :
    c.popScope.Tidy ∧ c.popScope.depth + 1 = c.depth
      ∧ c.popScope.scopes.scopes.length = c.scopes.scopes.length := by
  obtain ⟨stack, hstack, hlength⟩ := h
  have hdepth := hstack.length_eq
  match stack, hstack with
  | [], hstack => cases hstack.2
  | [_], _ => exact absurd (Nat.succ.inj hdepth).symm hinside
  | (id, vars) :: (outer, vars') :: rest, hstack =>
    have hpop := hstack.popScope
    have hparent : c.scopes.parent c.current = some outer := by
      rw [hstack.current]
      exact ScopeTree.parent_of_getElem? hstack.1.chain.1
    have hrelease := ScopeTree.release_of_parent hparent
    have hsize : c.popScope.scopes.scopes.length = c.scopes.scopes.length := by
      show (c.scopes.release c.current).2.scopes.length = _
      rw [hrelease]
      exact List.length_modify ..
    have hpooled : c.popScope.scopes.pooled = c.scopes.pooled + 1 := by
      show (c.scopes.release c.current).2.pooled = _
      rw [hrelease]
      rfl
    refine ⟨⟨_, hpop, ?_⟩, ?_, hsize⟩
    · rw [hsize, hpooled, ← hlength]
      simp only [List.length_cons]
      omega
    · rw [← hpop.length_eq]
      exact Nat.succ.inj hdepth

/-- The outermost scope is not left. -/
theorem popScope_eq (h : c.Tidy) (houtside : c.depth = 0) : c.popScope = c := by
  obtain ⟨stack, hstack, -⟩ := h
  have hdepth := hstack.length_eq
  rw [houtside] at hdepth
  obtain ⟨⟨id, vars⟩, rfl⟩ := List.length_eq_one_iff.mp hdepth
  have hparent : c.scopes.parent c.current = none := by
    rw [hstack.current]
    exact ScopeTree.parent_of_getElem? hstack.1.chain.1
  rw [Context.popScope, ScopeTree.release_of_parent_none hparent]
  rfl

end Tidy

-- ================================================================= runs

/-- The greatest depth of some contexts. -/
def peak (reached : List Context) : Nat := (reached.map depth).foldr max 0

theorem peak_cons (c : Context) (reached : List Context) :
    peak (c :: reached) = max c.depth (peak reached) := rfl

theorem peak_append (reached next : List Context) :
    peak (reached ++ next) = max (peak reached) (peak next) := by
  induction reached with
  | nil => exact (Nat.zero_max _).symm
  | cons c reached ih => rw [List.cons_append, peak_cons, peak_cons, ih, Nat.max_assoc]

theorem peak_le {reached : List Context} {k : Nat} (h : ∀ c ∈ reached, c.depth ≤ k) :
    peak reached ≤ k := by
  induction reached with
  | nil => exact Nat.zero_le k
  | cons c reached ih =>
    obtain ⟨hc, hrest⟩ := List.forall_mem_cons.mp h
    exact Nat.max_le.mpr ⟨hc, ih hrest⟩

/-- The store has one scope for each depth that was reached, the root
included, and all that are not around the innermost one are put aside. -/
structure Sized (c : Context) (reached : List Context) : Prop where
  length : c.scopes.scopes.length = 1 + peak reached
  pooled : c.scopes.pooled = c.scopes.scopes.length - 1 - c.depth

theorem Tidy.sized (h : c.Tidy) {reached : List Context}
    (hlength : c.scopes.scopes.length = 1 + peak reached) : c.Sized reached where
  length := hlength
  pooled := by
    rw [h.length_eq]
    omega

/-- What a context does with scopes. -/
inductive ScopeMove where
  | push
  | pop
deriving DecidableEq, Repr

def move (c : Context) : ScopeMove → Context
  | .push => c.pushScope
  | .pop => c.popScope

/-- The context after some moves. -/
def afterMoves (c : Context) (moves : List ScopeMove) : Context := moves.foldl move c

/-- The contexts on the way, from the first to the last one. -/
def visited (c : Context) : List ScopeMove → List Context
  | [] => [c]
  | m :: rest => c :: (c.move m).visited rest

namespace Tidy

/-- A move makes as many scopes as the depth needs that it comes to. -/
theorem move (h : c.Tidy) (m : ScopeMove) :
    (c.move m).Tidy ∧ (c.move m).scopes.scopes.length
      = max c.scopes.scopes.length (1 + (c.move m).depth) := by
  have hlength := h.length_eq
  cases m with
  | push =>
    obtain ⟨htidy, hdepth, hgrown⟩ := h.pushScope
    refine ⟨htidy, hgrown.trans ?_⟩
    show _ = max _ (1 + c.pushScope.depth)
    rw [hdepth]
    omega
  | pop =>
    by_cases houtside : c.depth = 0
    · have hsame : c.move .pop = c := h.popScope_eq houtside
      rw [hsame]
      exact ⟨h, by omega⟩
    · obtain ⟨htidy, hdepth, hkept⟩ := h.popScope houtside
      refine ⟨htidy, hkept.trans ?_⟩
      show _ = max _ (1 + c.popScope.depth)
      omega

/-- So over some moves it is the greatest depth that counts. -/
theorem length_afterMoves (h : c.Tidy) (moves : List ScopeMove) :
    (c.afterMoves moves).Tidy ∧ (c.afterMoves moves).scopes.scopes.length
      = max c.scopes.scopes.length (1 + peak (c.visited moves)) := by
  induction moves generalizing c with
  | nil =>
    have hlength := h.length_eq
    refine ⟨h, ?_⟩
    show c.scopes.scopes.length = max _ (1 + max c.depth 0)
    omega
  | cons m rest ih =>
    have hlength := h.length_eq
    obtain ⟨htidy, hmove⟩ := h.move m
    obtain ⟨hafter, hgrown⟩ := ih htidy
    have hfirst : (c.move m).depth ≤ peak ((c.move m).visited rest) := by
      cases rest <;> exact Nat.le_max_left ..
    refine ⟨hafter, hgrown.trans ?_⟩
    rw [hmove, visited, peak_cons]
    omega

end Tidy

/-- After any moves of a context that was begun, pops of the root among them,
the store has as many scopes as the depth that was reached. -/
theorem sized_afterMoves (arguments : Arguments) (moves : List ScopeMove) :
    ((start arguments).afterMoves moves).Sized ((start arguments).visited moves) := by
  obtain ⟨htidy, hlength⟩ := (Tidy.start arguments).length_afterMoves moves
  refine htidy.sized (hlength.trans ?_)
  show max 1 _ = _
  omega

/-- Two scopes inside of each other, left and entered again, and the root left
in vain. -/
example : ((start []).afterMoves [.push, .push, .pop, .push, .pop, .pop, .pop, .push]).scopes
    = ⟨[⟨[], none⟩, ⟨[], some 0⟩, ⟨[], none⟩], [2]⟩ := rfl

end Context

end DynamicSql
