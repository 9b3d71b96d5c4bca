/-
Whether walks outward end.

A look-up goes from a scope to the one around it until the name is found or
nothing is around. The walk that the store does is bounded by the number of
scopes; here stands the walk without a bound, which goes on as long as it
takes (`ScopeTree.Search`). The two agree as long as the chain of scopes is
finite, and then no scope comes twice in it (`ScopeTree.Outward`).

# Where walks may not end

A scope can be left while scopes inside it are still in use. They keep naming
it as the one around them, and the store forgets that they do. If it is the
next to be entered, and what it is entered in is one of those inside it, then
each is around the other, and a walk from either of them never comes to an
end (`ScopeSession.Loops`). Three scopes are enough for this
(`ScopeSession.no_end_of_crossing`).

This is the only way: as long as no scope is entered in this manner, all
walks end (`ScopeSession.always_walksEnd_iff`). It cannot come about where
a scope is only left after those inside it, as in a render.
-/
import DynamicSql.Proofs.Scope.Session

namespace DynamicSql

namespace ScopeTree

/-- The scopes on the way outward from a scope, up to one with nothing
around it. -/
inductive Outward (tree : ScopeTree) : ScopeId → List ScopeId → Prop where
  | last {id : ScopeId} (hend : tree.parent id = none) : Outward tree id [id]
  | step {id up : ScopeId} {path : List ScopeId} (hup : tree.parent id = some up)
      (rest : Outward tree up path) : Outward tree id (id :: path)

/-- A search for the nearest scope that binds a name, and what it comes to:
that scope, or none if nothing is around any more. -/
inductive Search (tree : ScopeTree) (name : String) : ScopeId → Option ScopeId → Prop where
  | found {id : ScopeId} (hbound : tree.containsLocal id name = true) :
      Search tree name id (some id)
  | ended {id : ScopeId} (hbound : tree.containsLocal id name = false)
      (hend : tree.parent id = none) : Search tree name id none
  | outward {id up : ScopeId} {result : Option ScopeId}
      (hbound : tree.containsLocal id name = false) (hup : tree.parent id = some up)
      (rest : Search tree name up result) : Search tree name id result

variable {tree tree' : ScopeTree} {id up : ScopeId} {path path' : List ScopeId}

-- ================================================================ chains

namespace Outward

/-- There is one way outward. -/
theorem unique (h : tree.Outward id path) (h' : tree.Outward id path') : path = path' := by
  induction h generalizing path' with
  | last hend =>
    cases h' with
    | last _ => rfl
    | step hup _ =>
      rw [hend] at hup
      cases hup
  | step hup _ ih =>
    cases h' with
    | last hend =>
      rw [hup] at hend
      cases hend
    | step hup' rest' =>
      obtain rfl := Option.some.inj (hup.symm.trans hup')
      rw [ih rest']

/-- The way outward from a scope on the way is a part of it. -/
theorem from_mem (h : tree.Outward id path) {other : ScopeId} (hmem : other ∈ path) :
    ∃ rest, tree.Outward other rest ∧ rest.length ≤ path.length := by
  induction h with
  | @last id hend =>
    obtain rfl := List.mem_singleton.mp hmem
    exact ⟨[other], .last hend, Nat.le_refl _⟩
  | @step id up path hup rest ih =>
    rcases List.mem_cons.mp hmem with rfl | hmem
    · exact ⟨other :: path, .step hup rest, Nat.le_refl _⟩
    · obtain ⟨rest', hrest', hle⟩ := ih hmem
      exact ⟨rest', hrest', Nat.le_succ_of_le hle⟩

/-- No scope comes twice on a way that ends: from there the way would be as
long as itself and one step more. -/
theorem nodup (h : tree.Outward id path) : path.Nodup := by
  induction h with
  | last hend => exact List.nodup_cons.mpr ⟨List.not_mem_nil, List.nodup_nil⟩
  | @step id up path hup rest ih =>
    refine List.nodup_cons.mpr ⟨fun hmem => ?_, ih⟩
    obtain ⟨again, hagain, hle⟩ := rest.from_mem hmem
    obtain rfl := hagain.unique (.step hup rest)
    exact Nat.not_succ_le_self _ hle

/-- All scopes on the way have what the first one has, if that is passed on
outward. -/
theorem forall_mem {P : ScopeId → Prop} (h : tree.Outward id path) (hid : P id)
    (step : ∀ {id up}, P id → tree.parent id = some up → P up) : ∀ other ∈ path, P other := by
  induction h with
  | last hend =>
    intro other hmem
    obtain rfl := List.mem_singleton.mp hmem
    exact hid
  | step hup _ ih =>
    intro other hmem
    rcases List.mem_cons.mp hmem with rfl | hmem
    · exact hid
    · exact ih (step hid hup) other hmem

/-- The way is no longer than the store. -/
theorem length_le (h : tree.Outward id path) (hid : id < tree.scopes.length)
    (haround : ∀ {id up}, tree.parent id = some up → up < tree.scopes.length) :
    path.length ≤ tree.scopes.length := by
  have hlt : ∀ other ∈ path, other < tree.scopes.length :=
    h.forall_mem hid fun _ hup => haround hup
  have hsub : path ⊆ List.range tree.scopes.length := fun other hmem =>
    List.mem_range.mpr (hlt other hmem)
  have hle := (List.subperm_of_subset h.nodup hsub).length_le
  rw [List.length_range] at hle
  exact hle

-- ============================================================== searches

/-- On a way that ends, the bounded walk comes to what the unbounded search
comes to. -/
theorem search (h : tree.Outward id path) (name : String) {steps : Nat}
    (hsteps : path.length ≤ steps) : tree.Search name id (tree.ownerWithin name steps id) := by
  induction h generalizing steps with
  | @last id hend =>
    obtain ⟨steps, rfl⟩ : ∃ n, steps = n + 1 := ⟨steps - 1, by simp at hsteps; omega⟩
    rw [ownerWithin]
    cases hbound : tree.containsLocal id name with
    | true => exact .found hbound
    | false =>
      rw [hend]
      exact .ended hbound hend
  | @step id up path hup _ ih =>
    obtain ⟨steps, rfl⟩ : ∃ n, steps = n + 1 := ⟨steps - 1, by simp at hsteps; omega⟩
    rw [ownerWithin]
    cases hbound : tree.containsLocal id name with
    | true => exact .found hbound
    | false =>
      rw [hup]
      exact .outward hbound hup (ih (Nat.le_of_succ_le_succ hsteps))

-- =============================================== what operations do to it

/-- A way that ends still does when scopes are taken off what is around
them. -/
theorem of_fewer_links (h : tree.Outward id path)
    (hlinks : ∀ id, tree'.parent id = tree.parent id ∨ tree'.parent id = none) :
    ∃ path', tree'.Outward id path' := by
  induction h with
  | @last id hend =>
    refine ⟨[id], .last ?_⟩
    rcases hlinks id with hsame | hnone
    · rw [hsame, hend]
    · exact hnone
  | @step id up path hup _ ih =>
    obtain ⟨path', hpath'⟩ := ih
    rcases hlinks id with hsame | hnone
    · exact ⟨id :: path', .step (hsame.trans hup) hpath'⟩
    · exact ⟨[id], .last hnone⟩

/-- Where each scope is inside another one, no way ends. -/
theorem not_of_inside {P : ScopeId → Prop}
    (hinside : ∀ id, P id → ∃ up, tree.parent id = some up ∧ P up) (hid : P id) :
    ¬tree.Outward id path := by
  intro h
  induction h with
  | @last id hend =>
    obtain ⟨up, hup, -⟩ := hinside id hid
    rw [hup] at hend
    cases hend
  | @step id up path hup _ ih =>
    obtain ⟨up', hup', hnext⟩ := hinside id hid
    obtain rfl := Option.some.inj (hup.symm.trans hup')
    exact ih hnext

section Link

-- `fresh` gets `up` around it, and had nothing around it before.

variable {fresh : ScopeId} (hfresh : tree.parent fresh = none)
  (hlink : ∀ id, tree'.parent id = if id = fresh then some up else tree.parent id)
include hlink

/-- A way that does not come by the scope is as before. -/
theorem of_link_not_mem (h : tree.Outward id path) (hmem : fresh ∉ path) :
    tree'.Outward id path := by
  induction h with
  | @last id hend =>
    have hne : id ≠ fresh := fun heq => hmem (heq ▸ List.mem_singleton.mpr rfl)
    exact .last (by rw [hlink, if_neg hne, hend])
  | @step id _ path hup _ ih =>
    have hne : id ≠ fresh := fun heq => hmem (heq ▸ List.mem_cons_self ..)
    exact .step (by rw [hlink, if_neg hne, hup]) (ih fun hin => hmem (List.mem_cons_of_mem _ hin))

include hfresh

/-- A way that ends in the scope goes on with the way of the new one around
it. -/
theorem of_link {outer : List ScopeId} (houter : tree'.Outward up outer)
    (h : tree.Outward id path) : ∃ path', tree'.Outward id path' := by
  induction h with
  | @last id hend =>
    by_cases heq : id = fresh
    · exact ⟨id :: outer, .step (by rw [hlink, if_pos heq]) houter⟩
    · exact ⟨[id], .last (by rw [hlink, if_neg heq, hend])⟩
  | @step id next path hup _ ih =>
    obtain ⟨path', hpath'⟩ := ih
    have hne : id ≠ fresh := by
      rintro rfl
      rw [hfresh] at hup
      cases hup
    exact ⟨id :: path', .step (by rw [hlink, if_neg hne, hup]) hpath'⟩

/-- If the way outward came by the scope, it still does. -/
theorem from_link_mem (h : tree.Outward id path) (hmem : fresh ∈ path)
    (h' : tree'.Outward id path') :
    ∃ rest, tree'.Outward fresh rest ∧ rest.length ≤ path'.length := by
  induction h generalizing path' with
  | @last id hend =>
    obtain rfl := List.mem_singleton.mp hmem
    exact ⟨path', h', Nat.le_refl _⟩
  | @step id next path hup _ ih =>
    have hne : id ≠ fresh := by
      rintro rfl
      rw [hfresh] at hup
      cases hup
    have hup' : tree'.parent id = some next := by rw [hlink, if_neg hne, hup]
    cases h' with
    | last hend =>
      rw [hup'] at hend
      cases hend
    | step hup'' rest' =>
      obtain rfl := Option.some.inj (hup'.symm.trans hup'')
      obtain ⟨rest, hrest, hle⟩ := ih (List.mem_of_ne_of_mem (Ne.symm hne) hmem) rest'
      exact ⟨rest, hrest, Nat.le_succ_of_le hle⟩

/-- A scope put around one that is on the way outward from it has no way
outward that ends. -/
theorem not_of_link_mem (h : tree.Outward up path) (hmem : fresh ∈ path) :
    ¬tree'.Outward up path' := by
  intro h'
  obtain ⟨rest, hrest, hle⟩ := from_link_mem hfresh hlink h hmem h'
  have hstep : tree'.Outward fresh (fresh :: path') := .step (by rw [hlink, if_pos rfl]) h'
  obtain rfl := hrest.unique hstep
  exact Nat.not_succ_le_self _ hle

end Link

end Outward

/-- Where each scope is inside another one, and none binds the name, a search
does not end. -/
theorem Search.not_of_inside {P : ScopeId → Prop} {name : String} {result : Option ScopeId}
    (hinside : ∀ id, P id → ∃ up, tree.parent id = some up ∧ P up)
    (hbound : ∀ id, P id → tree.containsLocal id name = false) (hid : P id) :
    ¬tree.Search name id result := by
  intro h
  induction h with
  | @found id hfound =>
    rw [hbound id hid] at hfound
    cases hfound
  | @ended id _ hend =>
    obtain ⟨up, hup, -⟩ := hinside id hid
    rw [hup] at hend
    cases hend
  | @outward id up result _ hup _ ih =>
    obtain ⟨up', hup', hnext⟩ := hinside id hid
    obtain rfl := Option.some.inj (hup.symm.trans hup')
    exact ih hnext

end ScopeTree

-- ============================================================== sessions

namespace ScopeSession

variable {s : ScopeSession} {op : ScopeOp}

/-- From each scope in use the way outward comes to an end without coming by
a scope twice, and so does each search, with what the bounded walk finds. -/
def WalksEnd (s : ScopeSession) : Prop :=
  ∀ id ∈ s.live, (∃ path, s.tree.Outward id path ∧ path.Nodup)
    ∧ ∀ name, s.tree.Search name id (s.tree.owner? id name)

/-- A scope is entered that is on the way outward from the one it is entered
in. -/
def Loops (s : ScopeSession) (op : ScopeOp) : Prop :=
  op.action = .acquire ∧ ∃ path, s.tree.Outward op.id path ∧ (s.tree.acquire op.id).1 ∈ path

/-- It is enough that there are ways that end. -/
theorem Sound.walksEnd (hs : s.Sound) (h : ∀ id ∈ s.live, ∃ path, s.tree.Outward id path) :
    s.WalksEnd := by
  intro id hid
  obtain ⟨path, hpath⟩ := h id hid
  exact ⟨⟨path, hpath, hpath.nodup⟩,
    fun name => hpath.search name (hpath.length_le (hs.lt_length hid) hs.around)⟩

theorem walksEnd_start (arguments : Arguments) : (start arguments).WalksEnd := by
  refine (Sound.start arguments).walksEnd fun id hid => ⟨[id], .last ?_⟩
  obtain rfl := List.mem_singleton.mp hid
  rfl

/-- An operation that makes no loop keeps the ends of walks. -/
theorem WalksEnd.perform (hs : s.Sound) (huses : s.Uses op) (h : s.WalksEnd)
    (hloops : ¬s.Loops op) : (s.perform op).2.WalksEnd := by
  have hsound : (s.perform op).2.Sound := hs.perform huses
  refine hsound.walksEnd ?_
  rcases perform_cases s op with hsame | ⟨owner, vars, -, hwrite⟩ | ⟨henters, henter⟩
    | ⟨-, up, hup, hleave⟩
  · rw [hsame]
    exact fun id hid => (h id hid).1.imp fun _ hpath => hpath.1
  · rw [hwrite]
    intro id hid
    obtain ⟨path, hpath, -⟩ := (h id hid).1
    exact hpath.of_fewer_links fun _ => .inl ScopeTree.parent_setVars
  · rw [henter]
    obtain ⟨outer, houter, -⟩ := (h op.id huses).1
    have hfresh := (hs.pooled.fresh op.id).1
    have hlink : ∀ other, (s.tree.acquire op.id).2.parent other
        = if other = (s.tree.acquire op.id).1 then some op.id else s.tree.parent other :=
      fun _ => hs.pooled.parent_acquire
    have hmem : (s.tree.acquire op.id).1 ∉ outer := fun hin => hloops ⟨henters, outer, houter, hin⟩
    have houter' : (s.tree.acquire op.id).2.Outward op.id outer :=
      ScopeTree.Outward.of_link_not_mem hlink houter hmem
    intro id hid
    rcases List.mem_cons.mp hid with rfl | hid
    · exact ⟨_ :: outer, .step (by rw [hlink, if_pos rfl]) houter'⟩
    · obtain ⟨path, hpath, -⟩ := (h id hid).1
      exact ScopeTree.Outward.of_link hfresh hlink houter' hpath
  · rw [hleave]
    intro id hid
    obtain ⟨path, hpath, -⟩ := (h id (List.mem_filter.mp hid).1).1
    refine hpath.of_fewer_links fun other => ?_
    rw [ScopeTree.parent_release hup]
    split
    · exact .inr rfl
    · exact .inl rfl

/-- After an operation that makes a loop, the walk from the scope that is
addressed has no end. -/
theorem Loops.not_walksEnd (hs : s.Sound) (huses : s.Uses op) (hloops : s.Loops op) :
    ¬(s.perform op).2.WalksEnd := by
  obtain ⟨hacquire, path, hpath, hmem⟩ := hloops
  rw [perform_acquire hacquire]
  intro h
  obtain ⟨path', hpath', -⟩ := (h op.id (List.mem_cons_of_mem _ huses)).1
  exact ScopeTree.Outward.not_of_link_mem (hs.pooled.fresh op.id).1
    (fun _ => hs.pooled.parent_acquire) hpath hmem hpath'

-- ============================================================ nested uses

/-- What is around a scope in use is in use too. -/
def Closed (s : ScopeSession) : Prop :=
  ∀ id ∈ s.live, ∀ up, s.tree.parent id = some up → up ∈ s.live

theorem closed_start (arguments : Arguments) : (start arguments).Closed := by
  intro id hid up hup
  obtain rfl := List.mem_singleton.mp hid
  cases hup

/-- As long as scopes are left after those inside them, none in use is inside
of one put aside. -/
theorem Closed.perform (hs : s.Sound) (huses : s.Uses op) (hnested : s.Nested op)
    (h : s.Closed) : (s.perform op).2.Closed := by
  rcases perform_cases s op with hsame | ⟨owner, vars, -, hwrite⟩ | ⟨-, henter⟩
    | ⟨hrelease, up, hup, hleave⟩
  · rw [hsame]
    exact h
  · rw [hwrite]
    intro id hid outer houter
    rw [ScopeTree.parent_setVars] at houter
    exact h id hid outer houter
  · rw [henter]
    intro id hid outer houter
    rw [hs.pooled.parent_acquire] at houter
    split at houter
    · obtain rfl := Option.some.inj houter
      exact List.mem_cons_of_mem _ huses
    · next hold =>
      exact List.mem_cons_of_mem _ (h id (List.mem_of_ne_of_mem hold hid) outer houter)
  · rw [hleave]
    intro id hid outer houter
    have hlive : id ∈ s.live := (List.mem_filter.mp hid).1
    rw [ScopeTree.parent_release hup] at houter
    split at houter
    · cases houter
    · have hne : outer ≠ op.id := by
        rintro rfl
        exact hnested hrelease id hlive houter
      exact List.mem_filter.mpr ⟨h id hlive outer houter, bne_iff_ne.mpr hne⟩

/-- Then a scope just entered is not on the way outward from the one it is
entered in, since it was not in use. -/
theorem Closed.not_loops (hs : s.Sound) (huses : s.Uses op) (h : s.Closed) : ¬s.Loops op := by
  rintro ⟨-, path, hpath, hmem⟩
  have hlive : ∀ id ∈ path, id ∈ s.live :=
    hpath.forall_mem huses fun {id up} hid hup => h id hid up hup
  exact hs.fresh_not_mem op.id (hlive _ hmem)

-- ============================================================== any uses

theorem always_walksEnd_iff_of_sound {ops : List ScopeOp} (hs : s.Sound) (h : s.WalksEnd)
    (huses : Throughout Uses s ops) :
    Always WalksEnd s ops ↔ Throughout (fun s op => ¬s.Loops op) s ops := by
  induction ops generalizing s with
  | nil => exact ⟨fun _ => trivial, fun _ => h⟩
  | cons op rest ih =>
    have hsound : (s.perform op).2.Sound := hs.perform huses.1
    constructor
    · rintro ⟨-, hrest⟩
      have hnext : (s.perform op).2.WalksEnd := by
        cases rest with
        | nil => exact hrest
        | cons _ _ => exact hrest.1
      exact ⟨fun hloops => hloops.not_walksEnd hs huses.1 hnext, (ih hsound hnext huses.2).mp hrest⟩
    · rintro ⟨hloops, hrest⟩
      have hnext := h.perform hs huses.1 hloops
      exact ⟨h, (ih hsound hnext huses.2).mpr hrest⟩

/-- All walks from scopes in use end, throughout any use of a store, exactly
if no scope is ever entered that is on the way outward from the one it is
entered in. This is so wherever scopes are left after those inside them. -/
theorem always_walksEnd_iff (arguments : Arguments) {ops : List ScopeOp}
    (huses : Throughout Uses (start arguments) ops) :
    (Always WalksEnd (start arguments) ops
        ↔ Throughout (fun s op => ¬s.Loops op) (start arguments) ops)
      ∧ (Throughout Nested (start arguments) ops → Always WalksEnd (start arguments) ops) := by
  have hiff := always_walksEnd_iff_of_sound (Sound.start arguments) (walksEnd_start arguments) huses
  refine ⟨hiff, fun hnested => hiff.mpr ?_⟩
  exact (huses.and hnested).of_step (P := fun s => s.Sound ∧ s.Closed)
    (fun hs hop => ⟨hs.1.perform hop.1, hs.2.perform hs.1 hop.1 hop.2⟩)
    (fun hs hop => hs.2.not_loops hs.1 hop.1)
    ⟨Sound.start arguments, closed_start arguments⟩

/-- A scope and one inside it, both left again, and one entered anew. -/
def nestedOps : List ScopeOp :=
  [⟨0, .acquire⟩, ⟨1, .acquire⟩, ⟨2, .release⟩, ⟨1, .release⟩, ⟨0, .acquire⟩]

theorem always_walksEnd_of_nestedOps : Always WalksEnd (start []) nestedOps := by
  have huses : Throughout Uses (start []) nestedOps := by
    unfold nestedOps
    refine ⟨?_, ?_, ?_, ?_, ?_, trivial⟩ <;> unfold Uses <;> decide
  have hnested : Throughout Nested (start []) nestedOps := by
    unfold nestedOps
    refine ⟨?_, ?_, ?_, ?_, ?_, trivial⟩ <;> unfold Nested
    · exact fun h => nomatch h
    · exact fun h => nomatch h
    · exact fun _ => by decide
    · exact fun _ => by decide
    · exact fun h => nomatch h
  exact (always_walksEnd_iff [] huses).2 hnested

/-- A scope is left while one inside it is in use, and entered anew in that
one. -/
def crossingOps : List ScopeOp :=
  [⟨0, .acquire⟩, ⟨1, .acquire⟩, ⟨1, .release⟩, ⟨2, .acquire⟩]

/-- Each of two scopes in use is then around the other: there is no end of
the way outward, and no end of the search for any name. -/
theorem no_end_of_crossing :
    Throughout Uses (start []) crossingOps
      ∧ ∃ s : ScopeSession, crossingOps.foldl (fun s op => (s.perform op).2) (start []) = s
        ∧ 1 ∈ s.live ∧ (¬∃ path, s.tree.Outward 1 path)
        ∧ ∀ name, ¬∃ result, s.tree.Search name 1 result := by
  have huses : Throughout Uses (start []) crossingOps := by
    unfold crossingOps
    refine ⟨?_, ?_, ?_, ?_, trivial⟩ <;> unfold Uses <;> decide
  have hinside : ∀ id, id = 1 ∨ id = 2 → ∃ up, ScopeTree.parent
      ⟨[⟨[], none⟩, ⟨[], some 2⟩, ⟨[], some 1⟩], []⟩ id = some up ∧ (up = 1 ∨ up = 2) := by
    rintro id (rfl | rfl)
    · exact ⟨2, rfl, .inr rfl⟩
    · exact ⟨1, rfl, .inl rfl⟩
  refine ⟨huses, ⟨⟨[⟨[], none⟩, ⟨[], some 2⟩, ⟨[], some 1⟩], []⟩, [1, 2, 0]⟩, rfl, by decide, ?_,
    fun name => ?_⟩
  · rintro ⟨path, hpath⟩
    exact ScopeTree.Outward.not_of_inside hinside (.inl rfl) hpath
  · rintro ⟨result, hresult⟩
    refine ScopeTree.Search.not_of_inside hinside ?_ (.inl rfl) hresult
    rintro id (rfl | rfl) <;> rfl

end ScopeSession

end DynamicSql
