/-
What the pool of a store holds, in whatever order scopes are left.

A scope that is left goes into the pool, and the next one entered comes out of
it. Nobody who uses the store sees the pool, and nothing asks of its users to
leave scopes in any order: one may be left while scopes inside it are in use,
and from these the chain outward then leads to a scope put aside. Still the
pool is always just the scopes that were entered and are not in use
(`ScopeSession.PoolExact`).

# Why nothing is written there

Most operations write to the scope that is addressed, and that one is in use.
Removing and binding anew go outward to the scope that binds the name, which
may lie behind a scope put aside, but it is never one of those: they bind no
name. So a scope put aside stays as it was left, and when it is entered again
there is nothing in it of its former life (`ScopeSession.EntersFresh`).
-/
import DynamicSql.Proofs.Scope.Session

namespace DynamicSql

namespace ScopeSession

variable {s : ScopeSession} {id : ScopeId}

/-- The pool holds the scopes without one around them, save the root, each of
them once and without variables. Together with those in use they are all
that were ever made. -/
structure PoolExact (s : ScopeSession) : Prop where
  root_not_mem : ScopeTree.root ∉ s.tree.pool
  nodup : s.tree.pool.Nodup
  mem_iff : ∀ id, id ∈ s.tree.pool
    ↔ id < s.tree.scopes.length ∧ id ≠ ScopeTree.root ∧ s.tree.parent id = none
  empty : ∀ id ∈ s.tree.pool, s.tree.localVars id = []
  places : (s.live ++ s.tree.pool).Perm (List.range s.tree.scopes.length)

/-- The scope that is entered in another one was not in use. If it comes out of
the pool it is cleared and detached there, and then it has no variables and
the other one around it. -/
structure EntersFresh (s : ScopeSession) (id : ScopeId) : Prop where
  not_live : (s.tree.acquire id).1 ∉ s.live
  cleared : ∀ fresh rest, s.tree.pool = fresh :: rest →
    s.tree.scopes[fresh]? = some ⟨[], none⟩
  empty : (s.tree.acquire id).2.localVars (s.tree.acquire id).1 = []
  parent : (s.tree.acquire id).2.parent (s.tree.acquire id).1 = some id

/-- Leaving a scope when it has just been left, or at any time while it is not
in use, gives nothing back and changes nothing. -/
structure LeavesOnce (s : ScopeSession) : Prop where
  again : ∀ id ∈ s.live, (s.perform ⟨id, .release⟩).2.perform ⟨id, .release⟩
    = (.scope none, (s.perform ⟨id, .release⟩).2)
  gone : ∀ id < s.tree.scopes.length, id ∉ s.live →
    s.perform ⟨id, .release⟩ = (.scope none, s)

/-- A scope with nothing around it is not left. -/
theorem perform_release_of_parent_none (h : s.tree.parent id = none) :
    s.perform ⟨id, .release⟩ = (.scope none, s) := by
  rw [perform, ScopeTree.perform]
  simp only [ScopeTree.release_of_parent_none h]
  rfl

/-- After a scope was left there is nothing around it, the root included. -/
theorem parent_perform_release (s : ScopeSession) (id : ScopeId) :
    (s.perform ⟨id, .release⟩).2.tree.parent id = none := by
  cases hup : s.tree.parent id with
  | none =>
    rw [perform_release_of_parent_none hup]
    exact hup
  | some up =>
    show (s.tree.release id).2.parent id = none
    rw [ScopeTree.parent_release hup, if_pos rfl]

namespace Sound

/-- A scope of the store is put aside if it is not in use. -/
theorem mem_pool_of_not_live (h : s.Sound) (hid : id < s.tree.scopes.length)
    (hnot : id ∉ s.live) : id ∈ s.tree.pool :=
  (List.mem_append.mp (h.places.mem_iff.mpr (List.mem_range.mpr hid))).resolve_left hnot

theorem parent_of_mem_pool (h : s.Sound) (hid : id ∈ s.tree.pool) : s.tree.parent id = none :=
  ScopeTree.parent_of_getElem? (h.pooled id hid)

theorem poolExact (h : s.Sound) : s.PoolExact where
  root_not_mem := h.not_mem_pool h.root.1
  nodup := (List.nodup_append.mp h.nodup).2.1
  mem_iff id := by
    constructor
    · intro hid
      have hlt := List.mem_range.mp (h.places.mem_iff.mp (List.mem_append_right _ hid))
      refine ⟨hlt, ?_, h.parent_of_mem_pool hid⟩
      rintro rfl
      exact h.not_mem_pool h.root.1 hid
    · rintro ⟨hlt, hne, hparent⟩
      exact h.mem_pool_of_not_live hlt fun hlive => h.entered id hlive hne hparent
  empty id hid := ScopeTree.localVars_of_getElem? (h.pooled id hid)
  places := h.places

theorem entersFresh (h : s.Sound) (id : ScopeId) : s.EntersFresh id where
  not_live := h.fresh_not_mem id
  cleared fresh rest hpool := h.pooled fresh (by rw [hpool]; exact List.mem_cons_self ..)
  empty := by
    rw [ScopeTree.localVars_acquire]
    exact (h.pooled.fresh id).2
  parent := by
    rw [h.pooled.parent_acquire, if_pos rfl]

theorem leavesOnce (h : s.Sound) : s.LeavesOnce where
  again id _ := perform_release_of_parent_none (parent_perform_release s id)
  gone _ hid hnot :=
    perform_release_of_parent_none (h.parent_of_mem_pool (h.mem_pool_of_not_live hid hnot))

end Sound

/-- Whatever is done to scopes in use, and in whatever order they are left, the
pool holds the scopes not in use, entering hands out none that is, and leaving
counts once. -/
theorem always_poolExact (arguments : Arguments) {ops : List ScopeOp}
    (huses : Throughout Uses (start arguments) ops) :
    Always (fun s => s.PoolExact ∧ (∀ id ∈ s.live, s.EntersFresh id) ∧ s.LeavesOnce)
      (start arguments) ops := by
  have hsound : Always Sound (start arguments) ops :=
    .of_step (fun hs huses => hs.perform huses) (Sound.start arguments) huses
  exact hsound.imp fun hs => ⟨hs.poolExact, fun id _ => hs.entersFresh id, hs.leavesOnce⟩

/-- A scope is left while one inside it is in use. From that one a name is
bound anew and another one removed, both beyond the scope put aside; then that
scope is entered again. -/
def disorderlyOps : List ScopeOp :=
  [⟨0, .put "y" .null⟩, ⟨0, .acquire⟩, ⟨1, .acquire⟩, ⟨1, .put "x" .null⟩, ⟨1, .release⟩,
    ⟨2, .rebind "x" (.bool true)⟩, ⟨2, .remove "y"⟩, ⟨0, .acquire⟩, ⟨1, .get "x"⟩]

theorem always_poolExact_of_disorderlyOps :
    Throughout Uses (start []) disorderlyOps
      ∧ Always (fun s => s.PoolExact ∧ (∀ id ∈ s.live, s.EntersFresh id) ∧ s.LeavesOnce)
        (start []) disorderlyOps := by
  have huses : Throughout Uses (start []) disorderlyOps := by
    unfold disorderlyOps
    refine ⟨?_, ?_, ?_, ?_, ?_, ?_, ?_, ?_, ?_, trivial⟩ <;> unfold Uses <;> decide
  exact ⟨huses, always_poolExact [] huses⟩

end ScopeSession

end DynamicSql
