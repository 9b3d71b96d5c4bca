/-
A store of scopes in any use: scopes entered, written and left in whatever
order.

A render uses its scopes as a stack (`DynamicSql.Proofs.Scope.Stack`). The
store does not ask for that. Several scopes may be open side by side, any of
them may be addressed, and one may be left while there still are scopes
inside it. What a user of the store does is a list of operations, and the
scopes that are in use come out of the answers (`ScopeSession`).

# What always holds

Whatever is done to scopes in use, each scope of the store is either in use
or put aside, and those put aside are empty and have nothing around them
(`ScopeSession.Sound`). So a scope just entered was not in use, and holds
nothing of its former life. No order of leaving is needed for this.

# What a step does

Most operations read, or write the variables of one scope; only entering and
leaving change which scope is around which. This is said once
(`ScopeSession.perform_cases`), and what holds of all uses is derived from it.
-/
import DynamicSql.Scope
import Mathlib.Data.List.Perm.Subperm

namespace DynamicSql

-- =========================================================== operations

/-- What is done with a scope. -/
inductive ScopeAction where
  | get (name : String)
  /-- A look-up through the variables in sight. -/
  | view (name : String)
  | containsLocal (name : String)
  | parent
  | put (name : String) (value : Value)
  | removeLocal (name : String)
  | remove (name : String)
  | rebind (name : String) (value : Value)
  | acquire
  | release

/-- An action and the scope it addresses. -/
structure ScopeOp where
  id : ScopeId
  action : ScopeAction

/-- What is answered to an action. `Id` is what scopes are addressed by. -/
inductive ScopeAnswer (Id : Type) where
  | value (value : Option Value)
  | flag (flag : Bool)
  | scope (id : Option Id)

/-- Does an operation on a store. -/
def ScopeTree.perform (tree : ScopeTree) (op : ScopeOp) : ScopeAnswer ScopeId × ScopeTree :=
  match op.action with
  | .get name => (.value (tree.get? op.id name), tree)
  | .view name => (.value (tree.view op.id name), tree)
  | .containsLocal name => (.flag (tree.containsLocal op.id name), tree)
  | .parent => (.scope (tree.parent op.id), tree)
  | .put name value =>
    let (old, tree) := tree.put op.id name value
    (.value old, tree)
  | .removeLocal name =>
    let (old, tree) := tree.removeLocal op.id name
    (.value old, tree)
  | .remove name =>
    let (old, tree) := tree.remove op.id name
    (.value old, tree)
  | .rebind name value =>
    let (old, tree) := tree.rebind op.id name value
    (.value old, tree)
  | .acquire =>
    let (fresh, tree) := tree.acquire op.id
    (.scope (some fresh), tree)
  | .release =>
    let (up, tree) := tree.release op.id
    (.scope up, tree)

/-- A store, and the scopes that are in use: the root, and those entered and
not left since. -/
structure ScopeSession where
  tree : ScopeTree
  live : List ScopeId

namespace ScopeSession

/-- A store of a root scope with variables in it, and only the root in
use. -/
def start (arguments : Arguments) : ScopeSession :=
  ⟨ScopeTree.withArguments arguments, [ScopeTree.root]⟩

/-- The scopes in use after an operation. -/
def liveAfter (live : List ScopeId) (op : ScopeOp) : ScopeAnswer ScopeId → List ScopeId
  | .scope (some id) =>
    match op.action with
    | .acquire => id :: live
    | .release => live.filter (· != op.id)
    | _ => live
  | _ => live

/-- Does an operation. -/
def perform (s : ScopeSession) (op : ScopeOp) : ScopeAnswer ScopeId × ScopeSession :=
  let (answer, tree) := s.tree.perform op
  (answer, ⟨tree, liveAfter s.live op answer⟩)

/-- The scope addressed is in use. -/
def Uses (s : ScopeSession) (op : ScopeOp) : Prop := op.id ∈ s.live

/-- A scope is only left when no scope in use is inside it. -/
def Nested (s : ScopeSession) (op : ScopeOp) : Prop :=
  op.action = .release → ∀ child ∈ s.live, s.tree.parent child ≠ some op.id

/-- Each operation of a list is as it should be when it is done. -/
def Throughout (P : ScopeSession → ScopeOp → Prop) : ScopeSession → List ScopeOp → Prop
  | _, [] => True
  | s, op :: rest => P s op ∧ Throughout P (s.perform op).2 rest

/-- Something holds before the first operation of a list and after each of
them. -/
def Always (P : ScopeSession → Prop) : ScopeSession → List ScopeOp → Prop
  | s, [] => P s
  | s, op :: rest => P s ∧ Always P (s.perform op).2 rest

theorem Throughout.and {P Q : ScopeSession → ScopeOp → Prop} {s : ScopeSession}
    {ops : List ScopeOp} (hP : Throughout P s ops) (hQ : Throughout Q s ops) :
    Throughout (fun s op => P s op ∧ Q s op) s ops := by
  induction ops generalizing s with
  | nil => trivial
  | cons op rest ih => exact ⟨⟨hP.1, hQ.1⟩, ih hP.2 hQ.2⟩

/-- Operations are as they should be if that follows from what the steps
keep. -/
theorem Throughout.of_step {P : ScopeSession → Prop} {Q R : ScopeSession → ScopeOp → Prop}
    (step : ∀ {s op}, P s → Q s op → P (s.perform op).2)
    (should : ∀ {s op}, P s → Q s op → R s op) {s : ScopeSession} {ops : List ScopeOp}
    (hs : P s) (hops : Throughout Q s ops) : Throughout R s ops := by
  induction ops generalizing s with
  | nil => trivial
  | cons op rest ih => exact ⟨should hs hops.1, ih (step hs hops.1) hops.2⟩

/-- What the steps keep holds all the time. -/
theorem Always.of_step {P : ScopeSession → Prop} {Q : ScopeSession → ScopeOp → Prop}
    (step : ∀ {s op}, P s → Q s op → P (s.perform op).2) {s : ScopeSession}
    {ops : List ScopeOp} (hs : P s) (hops : Throughout Q s ops) : Always P s ops := by
  induction ops generalizing s with
  | nil => exact hs
  | cons op rest ih => exact ⟨hs, ih (step hs hops.1) hops.2⟩

theorem Always.imp {P Q : ScopeSession → Prop} (h : ∀ {s}, P s → Q s) {s : ScopeSession}
    {ops : List ScopeOp} (hops : Always P s ops) : Always Q s ops := by
  induction ops generalizing s with
  | nil => exact h hops
  | cons op rest ih => exact ⟨h hops.1, ih hops.2⟩

end ScopeSession

-- ============================================================ the store

namespace ScopeTree

variable {tree : ScopeTree} {id other : ScopeId} {vars : Bindings Value}

theorem parent_of_getElem? {scope : Scope} (h : tree.scopes[id]? = some scope) :
    tree.parent id = scope.parent := by
  rw [parent, h]
  rfl

theorem localVars_of_getElem? {scope : Scope} (h : tree.scopes[id]? = some scope) :
    tree.localVars id = scope.vars := by
  rw [localVars, h]
  rfl

theorem parent_eq_none_of_le (h : tree.scopes.length ≤ id) : tree.parent id = none := by
  rw [parent, List.getElem?_eq_none h]
  rfl

theorem localVars_eq_nil_of_le (h : tree.scopes.length ≤ id) : tree.localVars id = [] := by
  rw [localVars, List.getElem?_eq_none h]
  rfl

theorem lt_of_parent (h : tree.parent id = some other) : id < tree.scopes.length := by
  by_contra hle
  rw [parent_eq_none_of_le (Nat.le_of_not_lt hle)] at h
  cases h

-- What is around a scope is not changed by its variables.

@[simp] theorem parent_setVars : (tree.setVars id vars).parent other = tree.parent other := by
  rw [parent, parent, setVars, List.getElem?_modify]
  cases tree.scopes[other]? with
  | none => rfl
  | some scope =>
    by_cases h : id = other
    · simp [h]
    · simp [h]

@[simp] theorem length_setVars : (tree.setVars id vars).scopes.length = tree.scopes.length :=
  List.length_modify ..

theorem localVars_setVars (hid : id < tree.scopes.length) :
    (tree.setVars id vars).localVars other
      = if other = id then vars else tree.localVars other := by
  rw [localVars, localVars, setVars, List.getElem?_modify]
  by_cases h : id = other
  · subst h
    simp [List.getElem?_eq_getElem hid]
  · have hne : ¬other = id := fun heq => h heq.symm
    cases tree.scopes[other]? <;> simp [h, hne]

/-- The nearest scope that binds a name binds it. -/
theorem containsLocal_of_ownerWithin {name : String} {steps : Nat} {owner : ScopeId}
    (h : tree.ownerWithin name steps id = some owner) : tree.containsLocal owner name = true := by
  induction steps generalizing id with
  | zero => cases h
  | succ steps ih =>
    rw [ownerWithin] at h
    split at h
    · next hbound =>
      obtain rfl := Option.some.inj h
      exact hbound
    · obtain ⟨up, -, hup⟩ := Option.bind_eq_some_iff.mp h
      exact ih hup

/-- A scope without variables binds no name. -/
theorem localVars_ne_nil {name : String} (h : tree.containsLocal id name = true) :
    tree.localVars id ≠ [] := by
  intro hnil
  rw [containsLocal, hnil] at h
  cases h

-- ==================================================== entering, leaving

/-- What is put aside is in the store, empty, and has nothing around it. -/
def PoolEmpty (tree : ScopeTree) : Prop := ∀ id ∈ tree.pool, tree.scopes[id]? = some ⟨[], none⟩

/-- Before it is entered a scope is empty and has nothing around it, whether
it was put aside or is new. -/
theorem PoolEmpty.fresh (h : tree.PoolEmpty) (id : ScopeId) :
    tree.parent (tree.acquire id).1 = none ∧ tree.localVars (tree.acquire id).1 = [] := by
  rw [acquire]
  cases hp : tree.pool with
  | nil => exact ⟨parent_eq_none_of_le (Nat.le_refl _), localVars_eq_nil_of_le (Nat.le_refl _)⟩
  | cons fresh pool =>
    have hempty := h fresh (by rw [hp]; exact List.mem_cons_self ..)
    exact ⟨parent_of_getElem? hempty, localVars_of_getElem? hempty⟩

/-- Entering a scope puts another one around it, and nothing else. -/
theorem PoolEmpty.parent_acquire (h : tree.PoolEmpty) :
    (tree.acquire id).2.parent other
      = if other = (tree.acquire id).1 then some id else tree.parent other := by
  rw [acquire]
  cases hp : tree.pool with
  | nil =>
    show ((tree.scopes ++ [⟨[], some id⟩])[other]?.bind Scope.parent)
      = if other = tree.scopes.length then some id else tree.parent other
    rcases Nat.lt_trichotomy other tree.scopes.length with hlt | rfl | hgt
    · rw [List.getElem?_append_left hlt, if_neg (Nat.ne_of_lt hlt)]
      rfl
    · rw [List.getElem?_concat_length, if_pos rfl]
      rfl
    · rw [List.getElem?_eq_none (by rw [List.length_append]; exact hgt),
        if_neg (Nat.ne_of_gt hgt), parent_eq_none_of_le (Nat.le_of_lt hgt)]
      rfl
  | cons fresh pool =>
    show ((tree.scopes.modify fresh fun scope => { scope with parent := some id })[other]?.bind
      Scope.parent) = if other = fresh then some id else tree.parent other
    have hempty := h fresh (by rw [hp]; exact List.mem_cons_self ..)
    by_cases heq : other = fresh
    · subst heq
      rw [List.getElem?_modify_eq, hempty, if_pos rfl]
      rfl
    · rw [List.getElem?_modify_ne _ _ fun hc => heq hc.symm, if_neg heq]
      rfl

/-- Entering a scope changes no variables. -/
theorem localVars_acquire :
    (tree.acquire id).2.localVars other = tree.localVars other := by
  rw [acquire]
  cases hp : tree.pool with
  | nil =>
    show ((tree.scopes ++ [⟨[], some id⟩])[other]?.map Scope.vars).getD [] = tree.localVars other
    rcases Nat.lt_trichotomy other tree.scopes.length with hlt | rfl | hgt
    · rw [List.getElem?_append_left hlt]
      rfl
    · rw [List.getElem?_concat_length, localVars_eq_nil_of_le (Nat.le_refl _)]
      rfl
    · rw [List.getElem?_eq_none (by rw [List.length_append]; exact hgt),
        localVars_eq_nil_of_le (Nat.le_of_lt hgt)]
      rfl
  | cons fresh pool =>
    show ((tree.scopes.modify fresh fun scope => { scope with parent := some id })[other]?.map
      Scope.vars).getD [] = tree.localVars other
    rw [List.getElem?_modify, localVars]
    cases tree.scopes[other]? with
    | none => rfl
    | some scope =>
      by_cases heq : fresh = other
      · simp [heq]
      · simp [heq]

/-- Leaving a scope takes it off what is around it, and changes nothing
else. -/
theorem parent_release {up : ScopeId} (h : tree.parent id = some up) :
    (tree.release id).2.parent other = if other = id then none else tree.parent other := by
  rw [release, h]
  show ((tree.scopes.modify id fun _ => ⟨[], none⟩)[other]?.bind Scope.parent) = _
  rw [List.getElem?_modify, parent]
  by_cases heq : id = other
  · subst heq
    cases tree.scopes[id]? <;> simp
  · have hne : ¬other = id := fun hc => heq hc.symm
    cases tree.scopes[other]? <;> simp [heq, hne]

/-- Leaving a scope empties it, and changes no other variables. -/
theorem localVars_release {up : ScopeId} (h : tree.parent id = some up) :
    (tree.release id).2.localVars other = if other = id then [] else tree.localVars other := by
  rw [release, h]
  show ((tree.scopes.modify id fun _ => ⟨[], none⟩)[other]?.map Scope.vars).getD [] = _
  rw [List.getElem?_modify, localVars]
  by_cases heq : id = other
  · subst heq
    cases tree.scopes[id]? <;> simp
  · have hne : ¬other = id := fun hc => heq hc.symm
    cases tree.scopes[other]? <;> simp [heq, hne]

theorem acquire_of_cons {fresh : ScopeId} {pool : List ScopeId} (h : tree.pool = fresh :: pool) :
    tree.acquire id
      = (fresh, ⟨tree.scopes.modify fresh fun scope => { scope with parent := some id },
        pool⟩) := by
  rw [acquire, h]

theorem acquire_of_nil (h : tree.pool = []) :
    tree.acquire id = (tree.scopes.length, ⟨tree.scopes ++ [⟨[], some id⟩], []⟩) := by
  rw [acquire, h]

/-- A scope with nothing around it is not left. -/
theorem release_of_parent_none (h : tree.parent id = none) : tree.release id = (none, tree) := by
  rw [release, h]

theorem release_of_parent {up : ScopeId} (h : tree.parent id = some up) :
    tree.release id
      = (some up, ⟨tree.scopes.modify id fun _ => ⟨[], none⟩, id :: tree.pool⟩) := by
  rw [release, h]

end ScopeTree

-- =========================================================== any session

namespace ScopeSession

variable {s : ScopeSession} {op : ScopeOp}

/-- What an operation does to a session: nothing, a change of the variables
of one scope, entering a scope, or leaving one. The scope that is written is
the one addressed, or one that binds a name. -/
theorem perform_cases (s : ScopeSession) (op : ScopeOp) :
    (s.perform op).2 = s
      ∨ (∃ owner vars, (owner = op.id ∨ ∃ name, s.tree.containsLocal owner name = true)
          ∧ (s.perform op).2 = ⟨s.tree.setVars owner vars, s.live⟩)
      ∨ (op.action = .acquire
          ∧ (s.perform op).2 = ⟨(s.tree.acquire op.id).2, (s.tree.acquire op.id).1 :: s.live⟩)
      ∨ (op.action = .release ∧ ∃ up, s.tree.parent op.id = some up
          ∧ (s.perform op).2 = ⟨(s.tree.release op.id).2, s.live.filter (· != op.id)⟩) := by
  obtain ⟨id, action⟩ := op
  cases action with
  | get name => exact .inl rfl
  | view name => exact .inl rfl
  | containsLocal name => exact .inl rfl
  | parent =>
    refine .inl ?_
    show (⟨s.tree, liveAfter s.live ⟨id, .parent⟩ (.scope (s.tree.parent id))⟩ : ScopeSession) = s
    cases s.tree.parent id <;> rfl
  | put name value => exact .inr (.inl ⟨id, _, .inl rfl, rfl⟩)
  | removeLocal name => exact .inr (.inl ⟨id, _, .inl rfl, rfl⟩)
  | remove name =>
    have hperform : (s.perform ⟨id, .remove name⟩).2
        = ⟨(s.tree.remove id name).2, s.live⟩ := rfl
    rw [hperform, ScopeTree.remove]
    cases howner : s.tree.owner? id name with
    | none => exact .inl rfl
    | some owner =>
      have hbinds := ScopeTree.containsLocal_of_ownerWithin howner
      exact .inr (.inl ⟨owner, _, .inr ⟨name, hbinds⟩, rfl⟩)
  | rebind name value =>
    have hperform : (s.perform ⟨id, .rebind name value⟩).2
        = ⟨(s.tree.rebind id name value).2, s.live⟩ := rfl
    rw [hperform, ScopeTree.rebind]
    cases howner : s.tree.owner? id name with
    | none => exact .inr (.inl ⟨id, _, .inl rfl, rfl⟩)
    | some owner =>
      have hbinds := ScopeTree.containsLocal_of_ownerWithin howner
      exact .inr (.inl ⟨owner, _, .inr ⟨name, hbinds⟩, rfl⟩)
  | acquire => exact .inr (.inr (.inl ⟨rfl, rfl⟩))
  | release =>
    have hperform : (s.perform ⟨id, .release⟩).2
        = ⟨(s.tree.release id).2, liveAfter s.live ⟨id, .release⟩ (.scope (s.tree.release id).1)⟩ :=
      rfl
    rw [hperform]
    cases hup : s.tree.parent id with
    | none =>
      rw [ScopeTree.release_of_parent_none hup]
      exact .inl rfl
    | some up =>
      rw [ScopeTree.release_of_parent hup]
      exact .inr (.inr (.inr ⟨rfl, up, rfl, rfl⟩))

theorem perform_acquire (h : op.action = .acquire) :
    (s.perform op).2 = ⟨(s.tree.acquire op.id).2, (s.tree.acquire op.id).1 :: s.live⟩ := by
  obtain ⟨id, action⟩ := op
  obtain rfl : action = .acquire := h
  rfl

-- ========================================================= what always holds

/-- Each scope of the store is in use or put aside, and not both. Those put
aside are empty and have nothing around them; those in use have, save the
root. -/
structure Sound (s : ScopeSession) : Prop where
  places : (s.live ++ s.tree.pool).Perm (List.range s.tree.scopes.length)
  root : ScopeTree.root ∈ s.live ∧ s.tree.parent ScopeTree.root = none
  entered : ∀ id ∈ s.live, id ≠ ScopeTree.root → s.tree.parent id ≠ none
  pooled : s.tree.PoolEmpty
  around : ∀ {id up}, s.tree.parent id = some up → up < s.tree.scopes.length

namespace Sound

variable {id owner up : ScopeId}

theorem start (arguments : Arguments) : Sound (ScopeSession.start arguments) where
  places := List.Perm.refl _
  root := ⟨List.mem_singleton.mpr rfl, rfl⟩
  entered id hid hne := absurd (List.mem_singleton.mp hid) hne
  pooled _ hid := nomatch hid
  around {id up} h := by
    have hlt : id < 1 := ScopeTree.lt_of_parent h
    obtain rfl : id = 0 := Nat.lt_one_iff.mp hlt
    cases h

theorem nodup (h : s.Sound) : (s.live ++ s.tree.pool).Nodup :=
  h.places.nodup_iff.mpr List.nodup_range

theorem lt_length (h : s.Sound) (hid : id ∈ s.live) : id < s.tree.scopes.length :=
  List.mem_range.mp (h.places.mem_iff.mp (List.mem_append_left _ hid))

theorem not_mem_pool (h : s.Sound) (hid : id ∈ s.live) : id ∉ s.tree.pool := fun hpool =>
  (List.nodup_append.mp h.nodup).2.2 id hid id hpool rfl

/-- A scope just entered was not in use. -/
theorem fresh_not_mem (h : s.Sound) (id : ScopeId) : (s.tree.acquire id).1 ∉ s.live := by
  intro hlive
  cases hp : s.tree.pool with
  | nil =>
    rw [ScopeTree.acquire_of_nil hp] at hlive
    exact Nat.lt_irrefl _ (h.lt_length hlive)
  | cons fresh pool =>
    rw [ScopeTree.acquire_of_cons hp] at hlive
    exact h.not_mem_pool hlive (by rw [hp]; exact List.mem_cons_self ..)

/-- Only scopes in use have something around them. -/
theorem mem_live_of_parent (h : s.Sound) (hup : s.tree.parent id = some up) : id ∈ s.live := by
  have hmem : id ∈ s.live ++ s.tree.pool :=
    h.places.mem_iff.mpr (List.mem_range.mpr (ScopeTree.lt_of_parent hup))
  rcases List.mem_append.mp hmem with hlive | hpool
  · exact hlive
  · rw [ScopeTree.parent_of_getElem? (h.pooled id hpool)] at hup
    cases hup

/-- What is written is in use: a scope put aside binds no name. -/
theorem setVars (h : s.Sound) (howner : owner ∈ s.live ∨ ∃ name,
    s.tree.containsLocal owner name = true) (vars : Bindings Value) :
    Sound ⟨s.tree.setVars owner vars, s.live⟩ where
  places := by
    rw [ScopeTree.length_setVars]
    exact h.places
  root := ⟨h.root.1, by rw [ScopeTree.parent_setVars]; exact h.root.2⟩
  entered id hid hne := by
    rw [ScopeTree.parent_setVars]
    exact h.entered id hid hne
  pooled := by
    intro id hid
    have hpool : id ∈ s.tree.pool := hid
    have hne : owner ≠ id := by
      rintro rfl
      rcases howner with hlive | ⟨name, hbinds⟩
      · exact h.not_mem_pool hlive hpool
      · exact ScopeTree.localVars_ne_nil hbinds
          (ScopeTree.localVars_of_getElem? (h.pooled owner hpool))
    show (s.tree.scopes.modify owner _)[id]? = _
    rw [List.getElem?_modify_ne _ _ hne]
    exact h.pooled id hpool
  around hup := by
    rw [ScopeTree.parent_setVars] at hup
    rw [ScopeTree.length_setVars]
    exact h.around hup

theorem acquire (h : s.Sound) (hid : id ∈ s.live) :
    Sound ⟨(s.tree.acquire id).2, (s.tree.acquire id).1 :: s.live⟩ where
  places := by
    cases hp : s.tree.pool with
    | nil =>
      rw [ScopeTree.acquire_of_nil hp]
      have hplaces := h.places
      rw [hp, List.append_nil] at hplaces
      show ((s.tree.scopes.length :: s.live) ++ []).Perm (List.range (_ ++ [_]).length)
      rw [List.append_nil, List.length_append, List.length_singleton, List.range_succ]
      exact (hplaces.cons _).trans (List.perm_append_singleton ..).symm
    | cons fresh pool =>
      rw [ScopeTree.acquire_of_cons hp]
      have hplaces := h.places
      rw [hp] at hplaces
      show (fresh :: (s.live ++ pool)).Perm (List.range (s.tree.scopes.modify _ _).length)
      rw [List.length_modify]
      exact List.perm_middle.symm.trans hplaces
  root := by
    have hne : ScopeTree.root ≠ (s.tree.acquire id).1 := fun heq =>
      h.fresh_not_mem id (heq ▸ h.root.1)
    refine ⟨List.mem_cons_of_mem _ h.root.1, ?_⟩
    rw [h.pooled.parent_acquire, if_neg hne]
    exact h.root.2
  entered other hother hne := by
    rw [h.pooled.parent_acquire]
    split
    · exact Option.some_ne_none id
    · next hold => exact h.entered other (List.mem_of_ne_of_mem hold hother) hne
  pooled := by
    intro other hother
    cases hp : s.tree.pool with
    | nil =>
      rw [ScopeTree.acquire_of_nil hp] at hother
      cases hother
    | cons fresh pool =>
      rw [ScopeTree.acquire_of_cons hp] at hother ⊢
      have hmem : other ∈ s.tree.pool := by rw [hp]; exact List.mem_cons_of_mem _ hother
      have hnodup := (List.nodup_append.mp h.nodup).2.1
      rw [hp] at hnodup
      have hne : fresh ≠ other := fun heq => (List.nodup_cons.mp hnodup).1 (heq ▸ hother)
      show (s.tree.scopes.modify fresh _)[other]? = _
      rw [List.getElem?_modify_ne _ _ hne]
      exact h.pooled other hmem
  around {other up} hup := by
    have hle : s.tree.scopes.length ≤ (s.tree.acquire id).2.scopes.length := by
      cases hp : s.tree.pool with
      | nil =>
        rw [ScopeTree.acquire_of_nil hp]
        exact (List.length_append ..).symm ▸ Nat.le_add_right ..
      | cons fresh pool =>
        rw [ScopeTree.acquire_of_cons hp]
        exact Nat.le_of_eq (List.length_modify ..).symm
    rw [h.pooled.parent_acquire] at hup
    split at hup
    · obtain rfl := Option.some.inj hup
      exact Nat.lt_of_lt_of_le (h.lt_length hid) hle
    · exact Nat.lt_of_lt_of_le (h.around hup) hle

theorem release (h : s.Sound) (hup : s.tree.parent id = some up) :
    Sound ⟨(s.tree.release id).2, s.live.filter (· != id)⟩ where
  places := by
    have hid : id ∈ s.live := h.mem_live_of_parent hup
    have hnodup : s.live.Nodup := (List.nodup_append.mp h.nodup).1
    rw [ScopeTree.release_of_parent hup]
    show (s.live.filter (· != id) ++ id :: s.tree.pool).Perm
      (List.range (s.tree.scopes.modify id _).length)
    rw [List.length_modify, ← hnodup.erase_eq_filter]
    exact (List.perm_middle.trans ((List.perm_cons_erase hid).symm.append_right _)).trans h.places
  root := by
    have hne : ScopeTree.root ≠ id := by
      rintro rfl
      rw [h.root.2] at hup
      cases hup
    refine ⟨List.mem_filter.mpr ⟨h.root.1, bne_iff_ne.mpr hne⟩, ?_⟩
    rw [ScopeTree.parent_release hup, if_neg hne]
    exact h.root.2
  entered other hother hne := by
    obtain ⟨hlive, hother⟩ := List.mem_filter.mp hother
    rw [ScopeTree.parent_release hup, if_neg (bne_iff_ne.mp hother)]
    exact h.entered other hlive hne
  pooled := by
    intro other hother
    rw [ScopeTree.release_of_parent hup] at hother ⊢
    show (s.tree.scopes.modify id _)[other]? = _
    by_cases heq : id = other
    · subst heq
      rw [List.getElem?_modify_eq, List.getElem?_eq_getElem (ScopeTree.lt_of_parent hup)]
      rfl
    · rw [List.getElem?_modify_ne _ _ heq]
      exact h.pooled other (List.mem_of_ne_of_mem (fun hc => heq hc.symm) hother)
  around {other up'} hup' := by
    rw [ScopeTree.parent_release hup] at hup'
    rw [ScopeTree.release_of_parent hup]
    show up' < (s.tree.scopes.modify id _).length
    rw [List.length_modify]
    split at hup'
    · cases hup'
    · exact h.around hup'

/-- An operation on a scope in use keeps the store sound, whatever it is. -/
theorem perform (h : s.Sound) (huses : s.Uses op) : (s.perform op).2.Sound := by
  rcases perform_cases s op with hsame | ⟨owner, vars, howner, hwrite⟩ | ⟨-, henter⟩
    | ⟨-, up, hup, hleave⟩
  · rw [hsame]
    exact h
  · rw [hwrite]
    refine h.setVars (howner.imp_left ?_) vars
    rintro rfl
    exact huses
  · rw [henter]
    exact h.acquire huses
  · rw [hleave]
    exact h.release hup

end Sound

end ScopeSession

end DynamicSql
