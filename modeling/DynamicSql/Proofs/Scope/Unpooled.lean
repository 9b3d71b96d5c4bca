/-
Stores of scopes without a pool, and why the pool cannot be noticed.

What a store of scopes is for can be said without a store. Scopes form a
tree; each of them is addressed by a place in it that no other scope ever
has; one that is entered is new and empty, and one that is left is gone
(`UnpooledTree`). The store that is used gives the same place to one scope
after another instead. Whoever uses it is told only what is bound, and which
scope is which.

# In step

The two are followed side by side through the same operations. The scopes in
use are paired, each place of the store with one scope of the tree
(`ScopeNames`), and the pairs say the same of their variables and of what is
around them. Then both give the same answers to whatever is asked
(`Follows`).

# What is asked of the user

No scope is left before those inside it. Otherwise a scope would remain
inside of one that is gone, and in the store that place may be given to
another one (`DynamicSql.Proofs.Scope.Outward`).
-/
import DynamicSql.Proofs.Scope.Outward
import Mathlib.Data.List.Nodup
import Mathlib.Logic.Function.Basic

namespace DynamicSql

-- ============================================================= the tree

/-- A scope by the scopes that it is inside of: the number of its own, then
of the one around it, and so on up to the root, which has no number. -/
abbrev Lineage := List Nat

/-- A tree of scopes, each with its variables. -/
structure UnpooledTree where
  /-- The variables of each scope there is. -/
  vars : Lineage → Option Variables
  /-- How many scopes have been entered; it is the number of the next. -/
  entered : Nat

namespace UnpooledTree

/-- The tree of a root scope with variables in it. -/
def start (arguments : Arguments) : UnpooledTree :=
  ⟨fun l => if l = [] then some (Bindings.find? arguments) else none, 0⟩

/-- The variables of one scope. -/
def localVars (t : UnpooledTree) (l : Lineage) : Variables := (t.vars l).getD fun _ => none

/-- The nearest scope that binds a name, from a scope outward. -/
def owner? (t : UnpooledTree) (name : String) : Lineage → Option Lineage
  | [] => if (t.localVars [] name).isSome then some [] else none
  | n :: around =>
    if (t.localVars (n :: around) name).isSome then some (n :: around) else owner? t name around

/-- What a name is bound to, as seen from a scope. -/
def get? (t : UnpooledTree) (l : Lineage) (name : String) : Option Value :=
  (t.owner? name l).bind fun owner => t.localVars owner name

/-- The scope around a scope. -/
def parent : Lineage → Option Lineage
  | [] => none
  | _ :: around => some around

/-- Exchanges the variables of one scope. -/
def setVars (t : UnpooledTree) (l : Lineage) (vars : Variables) : UnpooledTree :=
  { t with vars := Function.update t.vars l (some vars) }

/-- Binds a name in a scope. -/
def put (t : UnpooledTree) (l : Lineage) (name : String) (value : Value) :
    Option Value × UnpooledTree :=
  (t.localVars l name, t.setVars l (Function.update (t.localVars l) name (some value)))

/-- Removes a name from a scope itself. -/
def removeLocal (t : UnpooledTree) (l : Lineage) (name : String) :
    Option Value × UnpooledTree :=
  (t.localVars l name, t.setVars l (Function.update (t.localVars l) name none))

/-- Removes a name from the nearest scope that binds it. -/
def remove (t : UnpooledTree) (l : Lineage) (name : String) : Option Value × UnpooledTree :=
  match t.owner? name l with
  | some owner => t.removeLocal owner name
  | none => (none, t)

/-- Binds a name anew in the nearest scope that binds it, or in the scope
itself if none does. -/
def rebind (t : UnpooledTree) (l : Lineage) (name : String) (value : Value) :
    Option Value × UnpooledTree :=
  match t.owner? name l with
  | some owner => t.put owner name value
  | none => (none, (t.put l name value).2)

/-- Enters a new scope inside a scope. It is empty. -/
def acquire (t : UnpooledTree) (l : Lineage) : Lineage × UnpooledTree :=
  (t.entered :: l,
    ⟨Function.update t.vars (t.entered :: l) (some fun _ => none), t.entered + 1⟩)

/-- Leaves a scope, which is gone then, and gives back the one around it. -/
def release (t : UnpooledTree) : Lineage → Option Lineage × UnpooledTree
  | [] => (none, t)
  | n :: around => (some around, { t with vars := Function.update t.vars (n :: around) none })

/-- Does with a scope what is asked for. -/
def perform (t : UnpooledTree) (l : Lineage) (action : ScopeAction) :
    ScopeAnswer Lineage × UnpooledTree :=
  match action with
  | .get name => (.value (t.get? l name), t)
  | .view name => (.value (t.get? l name), t)
  | .containsLocal name => (.flag (t.localVars l name).isSome, t)
  | .parent => (.scope (parent l), t)
  | .put name value =>
    let (old, t) := t.put l name value
    (.value old, t)
  | .removeLocal name =>
    let (old, t) := t.removeLocal l name
    (.value old, t)
  | .remove name =>
    let (old, t) := t.remove l name
    (.value old, t)
  | .rebind name value =>
    let (old, t) := t.rebind l name value
    (.value old, t)
  | .acquire =>
    let (fresh, t) := t.acquire l
    (.scope (some fresh), t)
  | .release =>
    let (up, t) := t.release l
    (.scope up, t)

variable {t : UnpooledTree} {l other : Lineage} {vars : Variables}

theorem localVars_setVars :
    (t.setVars l vars).localVars other = if other = l then vars else t.localVars other := by
  show (Function.update t.vars l (some vars) other).getD _ = _
  rw [Function.update_apply]
  split <;> rfl

end UnpooledTree

-- =============================================================== pairs

/-- The scopes in use, each with the scope of the tree that it stands for. -/
abbrev ScopeNames := List (ScopeId × Lineage)

/-- The pairs after an operation. -/
def ScopeNames.after (names : ScopeNames) (op : ScopeOp) :
    ScopeAnswer ScopeId → ScopeAnswer Lineage → ScopeNames
  | .scope (some id), .scope (some l) =>
    match op.action with
    | .acquire => (id, l) :: names
    | .release => names.filter (·.1 != op.id)
    | _ => names
  | _, _ => names

/-- The same answer, scopes being the same if they are paired. -/
inductive ScopeAnswer.Alike (names : ScopeNames) :
    ScopeAnswer ScopeId → ScopeAnswer Lineage → Prop where
  | value (v : Option Value) : Alike names (.value v) (.value v)
  | flag (b : Bool) : Alike names (.flag b) (.flag b)
  | noScope : Alike names (.scope none) (.scope none)
  | scope {id : ScopeId} {l : Lineage} (h : (id, l) ∈ names) :
    Alike names (.scope (some id)) (.scope (some l))

/-- The pairs put the scopes in use and those of the tree one to one, and
paired scopes bind the same names to the same values. -/
structure Mirrors (names : ScopeNames) (s : ScopeSession) (t : UnpooledTree) : Prop where
  live : names.map Prod.fst = s.live
  ids : (names.map Prod.fst).Nodup
  lineages : (names.map Prod.snd).Nodup
  there : ∀ l, (t.vars l).isSome = true ↔ l ∈ names.map Prod.snd
  vars : ∀ {id l}, (id, l) ∈ names → Bindings.find? (s.tree.localVars id) = t.localVars l

/-- The store and the tree stay in step through operations: before each of
them and after the last one they mirror each other, and the answers are the
same. -/
def Follows : ScopeNames → ScopeSession → UnpooledTree → List ScopeOp → Prop
  | names, s, t, [] => Mirrors names s t
  | names, s, t, op :: rest =>
    Mirrors names s t ∧ ∃ l, (op.id, l) ∈ names
      ∧ (s.perform op).1.Alike
          (names.after op (s.perform op).1 (t.perform l op.action).1) (t.perform l op.action).1
      ∧ Follows (names.after op (s.perform op).1 (t.perform l op.action).1)
          (s.perform op).2 (t.perform l op.action).2 rest

/-- What the store and the tree have in common besides what can be asked for:
what is around a scope, and that numbers are not given twice. -/
structure Simulates (names : ScopeNames) (s : ScopeSession) (t : UnpooledTree) : Prop where
  mirrors : Mirrors names s t
  sound : s.Sound
  distinct : ∀ id, (s.tree.localVars id).DistinctNames
  outermost : ∀ {id}, (id, []) ∈ names → s.tree.parent id = none
  around : ∀ {id n l}, (id, n :: l) ∈ names → ∃ up, s.tree.parent id = some up ∧ (up, l) ∈ names
  numbers : ∀ {id l}, (id, l) ∈ names → ∀ n ∈ l, n < t.entered

namespace Mirrors

variable {names : ScopeNames} {s : ScopeSession} {t : UnpooledTree} {id id' : ScopeId}
  {l l' : Lineage}

theorem mem_live (h : Mirrors names s t) (hid : (id, l) ∈ names) : id ∈ s.live := by
  rw [← h.live]
  exact List.mem_map.mpr ⟨_, hid, rfl⟩

theorem mem_of_live (h : Mirrors names s t) (hid : id ∈ s.live) : ∃ l, (id, l) ∈ names := by
  rw [← h.live] at hid
  obtain ⟨⟨id, l⟩, hmem, rfl⟩ := List.mem_map.mp hid
  exact ⟨l, hmem⟩

/-- A place stands for one scope, and a scope has one place. -/
theorem same_iff (h : Mirrors names s t) (hid : (id, l) ∈ names) (hid' : (id', l') ∈ names) :
    id = id' ↔ l = l' := by
  constructor
  · rintro rfl
    exact congrArg Prod.snd (List.inj_on_of_nodup_map h.ids hid hid' rfl)
  · rintro rfl
    exact congrArg Prod.fst (List.inj_on_of_nodup_map h.lineages hid hid' rfl)

end Mirrors

namespace Simulates

variable {names : ScopeNames} {s : ScopeSession} {t : UnpooledTree} {id owner up : ScopeId}
  {l m : Lineage}

theorem start {arguments : Arguments} (h : arguments.DistinctNames) :
    Simulates [(ScopeTree.root, [])] (.start arguments) (.start arguments) where
  mirrors := {
    live := rfl
    ids := List.nodup_cons.mpr ⟨List.not_mem_nil, List.nodup_nil⟩
    lineages := List.nodup_cons.mpr ⟨List.not_mem_nil, List.nodup_nil⟩
    there := fun l => by
      show (if l = [] then some (Bindings.find? arguments) else none).isSome = true ↔ l ∈ [[]]
      rw [List.mem_singleton]
      split <;> simp_all
    vars := fun {id l} hid => by
      obtain ⟨rfl, rfl⟩ := Prod.mk.inj (List.mem_singleton.mp hid)
      rfl }
  sound := ScopeSession.Sound.start arguments
  distinct id := by
    cases id with
    | zero => exact h
    | succ n => exact List.nodup_nil
  outermost {id} hid := by
    obtain ⟨rfl, -⟩ := Prod.mk.inj (List.mem_singleton.mp hid)
    rfl
  around hid := nomatch (Prod.mk.inj (List.mem_singleton.mp hid)).2
  numbers {id l} hid := by
    obtain ⟨-, rfl⟩ := Prod.mk.inj (List.mem_singleton.mp hid)
    exact fun n hn => nomatch hn

-- ============================================================== reading

/-- The way outward from a place is as long as what stands for it. -/
theorem exists_outward (h : Simulates names s t) (hid : (id, l) ∈ names) :
    ∃ path, s.tree.Outward id path ∧ path.length = l.length + 1 := by
  induction l generalizing id with
  | nil => exact ⟨[id], .last (h.outermost hid), rfl⟩
  | cons n around ih =>
    obtain ⟨up, hup, hmem⟩ := h.around hid
    obtain ⟨path, hpath, hlength⟩ := ih hmem
    exact ⟨id :: path, .step hup hpath, congrArg (· + 1) hlength⟩

theorem length_lt (h : Simulates names s t) (hid : (id, l) ∈ names) :
    l.length < s.tree.scopes.length := by
  obtain ⟨path, hpath, hlength⟩ := h.exists_outward hid
  have hle := hpath.length_le (h.sound.lt_length (h.mirrors.mem_live hid)) h.sound.around
  rw [hlength] at hle
  exact hle

theorem containsLocal_eq (h : Simulates names s t) (hid : (id, l) ∈ names) (name : String) :
    s.tree.containsLocal id name = (t.localVars l name).isSome := by
  rw [ScopeTree.containsLocal, Bindings.contains, h.mirrors.vars hid]

/-- Looking for a name, both find the same scope, or none. -/
theorem owner?_cases (h : Simulates names s t) (hid : (id, l) ∈ names) (name : String) :
    (∃ owner m, s.tree.owner? id name = some owner ∧ t.owner? name l = some m
        ∧ (owner, m) ∈ names)
      ∨ (s.tree.owner? id name = none ∧ t.owner? name l = none) := by
  have hsteps : ∀ steps, l.length < steps →
      (∃ owner m, s.tree.ownerWithin name steps id = some owner ∧ t.owner? name l = some m
          ∧ (owner, m) ∈ names)
        ∨ (s.tree.ownerWithin name steps id = none ∧ t.owner? name l = none) := by
    induction l generalizing id with
    | nil =>
      intro steps hlt
      obtain ⟨steps, rfl⟩ : ∃ n, steps = n + 1 := ⟨steps - 1, by omega⟩
      rw [ScopeTree.ownerWithin, UnpooledTree.owner?, h.containsLocal_eq hid, h.outermost hid]
      split
      · exact .inl ⟨id, [], rfl, rfl, hid⟩
      · exact .inr ⟨rfl, rfl⟩
    | cons n around ih =>
      intro steps hlt
      obtain ⟨steps, rfl⟩ : ∃ n, steps = n + 1 := ⟨steps - 1, by omega⟩
      obtain ⟨up, hup, hmem⟩ := h.around hid
      rw [ScopeTree.ownerWithin, UnpooledTree.owner?, h.containsLocal_eq hid, hup]
      split
      · exact .inl ⟨id, n :: around, rfl, rfl, hid⟩
      · exact ih hmem steps (Nat.lt_of_succ_lt_succ hlt)
  exact hsteps _ (h.length_lt hid)

theorem get?_eq (h : Simulates names s t) (hid : (id, l) ∈ names) (name : String) :
    s.tree.get? id name = t.get? l name := by
  rw [ScopeTree.get?, UnpooledTree.get?]
  obtain ⟨owner, m, hs, ht, howner⟩ | ⟨hs, ht⟩ := h.owner?_cases hid name
  · rw [hs, ht]
    exact congrFun (h.mirrors.vars howner) name
  · rw [hs, ht]
    rfl

-- ============================================================== writing

/-- Writing into a pair keeps both in step. -/
theorem setVars (h : Simulates names s t) (howner : (owner, m) ∈ names)
    {vars : Bindings Value} {vars' : Variables} (hdistinct : vars.DistinctNames)
    (hsame : Bindings.find? vars = vars') :
    Simulates names ⟨s.tree.setVars owner vars, s.live⟩ (t.setVars m vars') where
  mirrors := {
    live := h.mirrors.live
    ids := h.mirrors.ids
    lineages := h.mirrors.lineages
    there := fun l => by
      rw [← h.mirrors.there]
      show (Function.update t.vars m (some vars') l).isSome = true ↔ _
      rw [Function.update_apply]
      split
      · next heq =>
        have hm : (t.vars m).isSome = true :=
          (h.mirrors.there m).mpr (List.mem_map.mpr ⟨_, howner, rfl⟩)
        rw [heq, hm]
        exact iff_of_true rfl rfl
      · exact Iff.rfl
    vars := fun {id l} hid => by
      have hlt := h.sound.lt_length (h.mirrors.mem_live howner)
      show Bindings.find? ((s.tree.setVars owner vars).localVars id) = _
      rw [ScopeTree.localVars_setVars hlt, UnpooledTree.localVars_setVars]
      simp only [h.mirrors.same_iff hid howner]
      split
      · exact hsame
      · exact h.mirrors.vars hid }
  sound := h.sound.setVars (.inl (h.mirrors.mem_live howner)) vars
  distinct id := by
    have hlt := h.sound.lt_length (h.mirrors.mem_live howner)
    show ((s.tree.setVars owner vars).localVars id).DistinctNames
    rw [ScopeTree.localVars_setVars hlt]
    split
    · exact hdistinct
    · exact h.distinct id
  outermost hid := ScopeTree.parent_setVars.trans (h.outermost hid)
  around hid := by
    obtain ⟨up, hup, hmem⟩ := h.around hid
    exact ⟨up, ScopeTree.parent_setVars.trans hup, hmem⟩
  numbers := h.numbers

theorem put (h : Simulates names s t) (howner : (owner, m) ∈ names) (name : String)
    (value : Value) :
    (s.tree.put owner name value).1 = (t.put m name value).1
      ∧ Simulates names ⟨(s.tree.put owner name value).2, s.live⟩ (t.put m name value).2 := by
  refine ⟨congrFun (h.mirrors.vars howner) name,
    h.setVars howner ((h.distinct owner).insert name value) ?_⟩
  funext other
  rw [Bindings.find?_insert, h.mirrors.vars howner, Function.update_apply]
  simp only [eq_comm]

theorem removeLocal (h : Simulates names s t) (howner : (owner, m) ∈ names) (name : String) :
    (s.tree.removeLocal owner name).1 = (t.removeLocal m name).1
      ∧ Simulates names ⟨(s.tree.removeLocal owner name).2, s.live⟩ (t.removeLocal m name).2 := by
  refine ⟨congrFun (h.mirrors.vars howner) name,
    h.setVars howner ((h.distinct owner).erase name) ?_⟩
  funext other
  rw [Bindings.find?_erase (h.distinct owner), h.mirrors.vars howner, Function.update_apply]
  simp only [eq_comm]

theorem remove (h : Simulates names s t) (hid : (id, l) ∈ names) (name : String) :
    (s.tree.remove id name).1 = (t.remove l name).1
      ∧ Simulates names ⟨(s.tree.remove id name).2, s.live⟩ (t.remove l name).2 := by
  rw [ScopeTree.remove, UnpooledTree.remove]
  obtain ⟨owner, m, hs, ht, howner⟩ | ⟨hs, ht⟩ := h.owner?_cases hid name
  · rw [hs, ht]
    exact h.removeLocal howner name
  · rw [hs, ht]
    exact ⟨rfl, h⟩

theorem rebind (h : Simulates names s t) (hid : (id, l) ∈ names) (name : String)
    (value : Value) :
    (s.tree.rebind id name value).1 = (t.rebind l name value).1
      ∧ Simulates names ⟨(s.tree.rebind id name value).2, s.live⟩ (t.rebind l name value).2 := by
  rw [ScopeTree.rebind, UnpooledTree.rebind]
  obtain ⟨owner, m, hs, ht, howner⟩ | ⟨hs, ht⟩ := h.owner?_cases hid name
  · rw [hs, ht]
    exact h.put howner name value
  · rw [hs, ht]
    exact ⟨rfl, (h.put hid name value).2⟩

-- ==================================================== entering, leaving

/-- No scope of the tree has the number of the next. -/
theorem not_mem_entered (h : Simulates names s t) (l : Lineage) :
    t.entered :: l ∉ names.map Prod.snd := by
  intro hmem
  obtain ⟨⟨id, l'⟩, hid, rfl⟩ := List.mem_map.mp hmem
  exact Nat.lt_irrefl _ (h.numbers hid t.entered (List.mem_cons_self ..))

/-- The scope that is entered in the store is as good as new. -/
theorem acquire (h : Simulates names s t) (hid : (id, l) ∈ names) :
    Simulates (((s.tree.acquire id).1, t.entered :: l) :: names)
      ⟨(s.tree.acquire id).2, (s.tree.acquire id).1 :: s.live⟩ (t.acquire l).2 where
  mirrors := {
    live := congrArg (_ :: ·) h.mirrors.live
    ids := by
      refine List.nodup_cons.mpr ⟨?_, h.mirrors.ids⟩
      rw [h.mirrors.live]
      exact h.sound.fresh_not_mem id
    lineages := List.nodup_cons.mpr ⟨h.not_mem_entered l, h.mirrors.lineages⟩
    there := fun other => by
      show (Function.update t.vars (t.entered :: l) _ other).isSome = true
        ↔ other ∈ (t.entered :: l) :: names.map Prod.snd
      rw [Function.update_apply, List.mem_cons, ← h.mirrors.there]
      split
      · next heq => exact iff_of_true rfl (.inl heq)
      · next hne => exact ⟨.inr, fun hor => hor.resolve_left hne⟩
    vars := fun {id' l'} hid' => by
      show Bindings.find? ((s.tree.acquire id).2.localVars id')
        = (Function.update t.vars (t.entered :: l) (some fun _ => none) l').getD fun _ => none
      rw [ScopeTree.localVars_acquire, Function.update_apply]
      rcases List.mem_cons.mp hid' with heq | hid'
      · obtain ⟨rfl, rfl⟩ := Prod.mk.inj heq
        rw [(h.sound.pooled.fresh id).2, if_pos rfl]
        rfl
      · have hne : l' ≠ t.entered :: l := fun heq =>
          h.not_mem_entered l (List.mem_map.mpr ⟨_, hid', heq⟩)
        rw [if_neg hne]
        exact h.mirrors.vars hid' }
  sound := h.sound.acquire (h.mirrors.mem_live hid)
  distinct id' := by
    show ((s.tree.acquire id).2.localVars id').DistinctNames
    rw [ScopeTree.localVars_acquire]
    exact h.distinct id'
  outermost {id'} hid' := by
    have hold : (id', []) ∈ names := by
      rcases List.mem_cons.mp hid' with heq | hold
      · cases (Prod.mk.inj heq).2
      · exact hold
    have hne : id' ≠ (s.tree.acquire id).1 := fun heq =>
      h.sound.fresh_not_mem id (heq ▸ h.mirrors.mem_live hold)
    exact (h.sound.pooled.parent_acquire.trans (if_neg hne)).trans (h.outermost hold)
  around {id' n around} hid' := by
    rcases List.mem_cons.mp hid' with heq | hold
    · obtain ⟨rfl, hl⟩ := Prod.mk.inj heq
      obtain ⟨-, rfl⟩ := List.cons.inj hl
      exact ⟨id, h.sound.pooled.parent_acquire.trans (if_pos rfl), List.mem_cons_of_mem _ hid⟩
    · have hne : id' ≠ (s.tree.acquire id).1 := fun heq =>
        h.sound.fresh_not_mem id (heq ▸ h.mirrors.mem_live hold)
      obtain ⟨up, hup, hmem⟩ := h.around hold
      exact ⟨up, (h.sound.pooled.parent_acquire.trans (if_neg hne)).trans hup,
        List.mem_cons_of_mem _ hmem⟩
  numbers {id' l'} hid' n hn := by
    show n < t.entered + 1
    rcases List.mem_cons.mp hid' with heq | hold
    · obtain ⟨-, rfl⟩ := Prod.mk.inj heq
      rcases List.mem_cons.mp hn with rfl | hn
      · exact Nat.lt_succ_self _
      · exact Nat.lt_succ_of_lt (h.numbers hid n hn)
    · exact Nat.lt_succ_of_lt (h.numbers hold n hn)

theorem mem_filter_names {id' : ScopeId} {l' : Lineage} :
    (id', l') ∈ names.filter (·.1 != id) ↔ (id', l') ∈ names ∧ id' ≠ id := by
  rw [List.mem_filter, bne_iff_ne]

/-- A scope that is left may be forgotten, if nothing in use is inside it. -/
theorem release (h : Simulates names s t) {n : Nat} {around : Lineage}
    (hid : (id, n :: around) ∈ names)
    (hnested : ∀ child ∈ s.live, s.tree.parent child ≠ some id)
    (hup : s.tree.parent id = some up) :
    Simulates (names.filter (·.1 != id))
      ⟨(s.tree.release id).2, s.live.filter (· != id)⟩ (t.release (n :: around)).2 where
  mirrors := {
    live := by
      rw [← h.mirrors.live, List.filter_map]
      rfl
    ids := h.mirrors.ids.sublist (List.filter_sublist.map Prod.fst)
    lineages := h.mirrors.lineages.sublist (List.filter_sublist.map Prod.snd)
    there := fun other => by
      show (Function.update t.vars (n :: around) none other).isSome = true ↔ _
      rw [Function.update_apply]
      split
      · next heq =>
        refine iff_of_false Bool.false_ne_true fun hmem => ?_
        obtain ⟨⟨id', l'⟩, hid', rfl⟩ := List.mem_map.mp hmem
        obtain ⟨hold, hne⟩ := mem_filter_names.mp hid'
        exact hne ((h.mirrors.same_iff hold hid).mpr heq)
      · next hne =>
        rw [h.mirrors.there]
        constructor
        · intro hmem
          obtain ⟨⟨id', l'⟩, hold, rfl⟩ := List.mem_map.mp hmem
          have hne' : id' ≠ id := fun heq => hne ((h.mirrors.same_iff hold hid).mp heq)
          exact List.mem_map.mpr ⟨_, mem_filter_names.mpr ⟨hold, hne'⟩, rfl⟩
        · intro hmem
          obtain ⟨⟨id', l'⟩, hid', rfl⟩ := List.mem_map.mp hmem
          exact List.mem_map.mpr ⟨_, (mem_filter_names.mp hid').1, rfl⟩
    vars := fun {id' l'} hid' => by
      obtain ⟨hold, hne⟩ := mem_filter_names.mp hid'
      have hne' : l' ≠ n :: around := fun heq => hne ((h.mirrors.same_iff hold hid).mpr heq)
      show Bindings.find? ((s.tree.release id).2.localVars id')
        = (Function.update t.vars (n :: around) none l').getD fun _ => none
      rw [ScopeTree.localVars_release hup, if_neg hne, Function.update_apply, if_neg hne']
      exact h.mirrors.vars hold }
  sound := h.sound.release hup
  distinct id' := by
    show ((s.tree.release id).2.localVars id').DistinctNames
    rw [ScopeTree.localVars_release hup]
    split
    · exact List.nodup_nil
    · exact h.distinct id'
  outermost hid' := by
    obtain ⟨hold, hne⟩ := mem_filter_names.mp hid'
    exact ((ScopeTree.parent_release hup).trans (if_neg hne)).trans (h.outermost hold)
  around hid' := by
    obtain ⟨hold, hne⟩ := mem_filter_names.mp hid'
    obtain ⟨outer, houter, hmem⟩ := h.around hold
    have hstays : outer ≠ id := by
      rintro rfl
      exact hnested _ (h.mirrors.mem_live hold) houter
    exact ⟨outer, ((ScopeTree.parent_release hup).trans (if_neg hne)).trans houter,
      mem_filter_names.mpr ⟨hmem, hstays⟩⟩
  numbers hid' := h.numbers (mem_filter_names.mp hid').1

-- ================================================================ steps

variable {op : ScopeOp}

theorem alike_value {v v' : Option Value} (h : v = v') :
    ScopeAnswer.Alike names (.value v) (.value v') := by
  rw [h]
  exact .value v'

/-- Each operation gives the same answer on both sides, and keeps them in
step. -/
theorem perform (h : Simulates names s t) (hnested : s.Nested op) (hid : (op.id, l) ∈ names) :
    (s.perform op).1.Alike
        (names.after op (s.perform op).1 (t.perform l op.action).1) (t.perform l op.action).1
      ∧ Simulates (names.after op (s.perform op).1 (t.perform l op.action).1)
          (s.perform op).2 (t.perform l op.action).2 := by
  obtain ⟨id, action⟩ := op
  have hid' : (id, l) ∈ names := hid
  cases action with
  | get name => exact ⟨alike_value (h.get?_eq hid' name), h⟩
  | view name => exact ⟨alike_value (h.get?_eq hid' name), h⟩
  | containsLocal name =>
    show ScopeAnswer.Alike names (.flag (s.tree.containsLocal id name))
        (.flag (t.localVars l name).isSome) ∧ Simulates names s t
    rw [h.containsLocal_eq hid' name]
    exact ⟨.flag _, h⟩
  | parent =>
    cases l with
    | nil =>
      have hnone : s.perform ⟨id, .parent⟩ = (.scope none, s) := by
        rw [ScopeSession.perform, ScopeTree.perform]
        simp only [h.outermost hid']
        rfl
      rw [hnone]
      exact ⟨.noScope, h⟩
    | cons n around =>
      obtain ⟨up, hup, hmem⟩ := h.around hid'
      have hsome : s.perform ⟨id, .parent⟩ = (.scope (some up), s) := by
        rw [ScopeSession.perform, ScopeTree.perform]
        simp only [hup]
        rfl
      rw [hsome]
      exact ⟨.scope hmem, h⟩
  | put name value =>
    obtain ⟨hanswer, hnext⟩ := h.put hid' name value
    exact ⟨alike_value hanswer, hnext⟩
  | removeLocal name =>
    obtain ⟨hanswer, hnext⟩ := h.removeLocal hid' name
    exact ⟨alike_value hanswer, hnext⟩
  | remove name =>
    obtain ⟨hanswer, hnext⟩ := h.remove hid' name
    exact ⟨alike_value hanswer, hnext⟩
  | rebind name value =>
    obtain ⟨hanswer, hnext⟩ := h.rebind hid' name value
    exact ⟨alike_value hanswer, hnext⟩
  | acquire => exact ⟨.scope (List.mem_cons_self ..), h.acquire hid'⟩
  | release =>
    cases l with
    | nil =>
      have hnone : s.perform ⟨id, .release⟩ = (.scope none, s) := by
        rw [ScopeSession.perform, ScopeTree.perform]
        simp only [ScopeTree.release_of_parent_none (h.outermost hid')]
        rfl
      rw [hnone]
      exact ⟨.noScope, h⟩
    | cons n around =>
      obtain ⟨up, hup, hmem⟩ := h.around hid'
      have hsome : s.perform ⟨id, .release⟩
          = (.scope (some up), ⟨(s.tree.release id).2, s.live.filter (· != id)⟩) := by
        rw [ScopeSession.perform, ScopeTree.perform, ScopeTree.release_of_parent hup]
        rfl
      rw [hsome]
      have hne : up ≠ id := by
        rintro rfl
        exact hnested rfl _ (h.mirrors.mem_live hid') hup
      exact ⟨.scope (mem_filter_names.mpr ⟨hmem, hne⟩), h.release hid' (hnested rfl) hup⟩

/-- So they stay in step through any number of operations. -/
theorem follows (h : Simulates names s t) {ops : List ScopeOp}
    (hops : ScopeSession.Throughout (fun s op => s.Uses op ∧ s.Nested op) s ops) :
    Follows names s t ops := by
  induction ops generalizing names s t with
  | nil => exact h.mirrors
  | cons op rest ih =>
    obtain ⟨⟨huses, hnested⟩, hrest⟩ := hops
    obtain ⟨l, hid⟩ := h.mirrors.mem_of_live huses
    obtain ⟨halike, hnext⟩ := h.perform hnested hid
    exact ⟨h.mirrors, l, hid, halike, ih hnext hrest⟩

end Simulates

/-- A store of scopes in which no scope is left before those inside it cannot
be told from a tree in which each scope entered is a new one. -/
theorem ScopeSession.follows_unpooled {arguments : Arguments} (h : arguments.DistinctNames)
    {ops : List ScopeOp}
    (hops : Throughout (fun s op => s.Uses op ∧ s.Nested op) (start arguments) ops) :
    Follows [(ScopeTree.root, [])] (start arguments) (UnpooledTree.start arguments) ops :=
  (Simulates.start h).follows hops

/-- Two scopes side by side, with a name that is bound in the root and in one
of them; both are left, and a place of the store is used again. -/
def sideBySide : List ScopeOp :=
  [⟨0, .acquire⟩, ⟨0, .acquire⟩, ⟨1, .put "x" .null⟩, ⟨2, .remove "x"⟩, ⟨1, .release⟩,
    ⟨2, .rebind "y" .null⟩, ⟨2, .release⟩, ⟨0, .acquire⟩, ⟨2, .get "y"⟩, ⟨2, .parent⟩]

theorem ScopeSession.follows_of_sideBySide :
    Follows [(ScopeTree.root, [])] (start [("x", .null), ("y", .null)])
      (UnpooledTree.start [("x", .null), ("y", .null)]) sideBySide := by
  refine follows_unpooled (by unfold Bindings.DistinctNames; decide) ?_
  unfold sideBySide
  refine ⟨⟨?_, ?_⟩, ⟨?_, ?_⟩, ⟨?_, ?_⟩, ⟨?_, ?_⟩, ⟨?_, ?_⟩, ⟨?_, ?_⟩, ⟨?_, ?_⟩, ⟨?_, ?_⟩,
    ⟨?_, ?_⟩, ⟨?_, ?_⟩, trivial⟩
  all_goals first
    | (show _ ∈ _; decide)
    | (intro h; cases h; done)
    | (intro _; decide)

end DynamicSql
