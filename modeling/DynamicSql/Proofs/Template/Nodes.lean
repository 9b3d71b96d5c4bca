/-
The nodes within a node, and the bodies of its branches.

A render applies nodes of its template and no others. What is known of every
node within a root is therefore known of every node that a render applies, at
whatever depth.

# Scopes of branches

A branch says of its body whether it is to be run in a scope of its own. Where
that is decided by whether the body binds a variable anywhere inside
(`Node.OwnsBinds`), nothing that is bound in a branch outlives it.
-/
import DynamicSql.Template.Node

namespace DynamicSql.Template

mutual

/-- The nodes at and below a node, in the order of the template. -/
def Node.within : Node → List Node
  | .text content => [.text content]
  | .placeholders t => [.placeholders t]
  | .bind b => [.bind b]
  | .conditional first others otherwise =>
    .conditional first others otherwise :: (first.within ++ (Branch.allWithin others ++
      (match otherwise with
        | some body => body.within
        | none => [])))
  | .choose cases otherwise span =>
    .choose cases otherwise span :: (Case.allWithin cases ++
      (match otherwise with
        | some body => body.within
        | none => []))
  | .foreach head body => .foreach head body :: body.within
  | .sequence children => .sequence children :: Node.allWithin children

def Node.allWithin : List Node → List Node
  | [] => []
  | node :: rest => node.within ++ Node.allWithin rest

def Body.within : Body → List Node
  | ⟨_, node⟩ => node.within

def Branch.within : Branch → List Node
  | ⟨_, _, body, _⟩ => body.within

def Branch.allWithin : List Branch → List Node
  | [] => []
  | branch :: rest => branch.within ++ Branch.allWithin rest

def Case.allWithin : List Case → List Node
  | [] => []
  | ⟨_, _, body, _⟩ :: rest => body.within ++ Case.allWithin rest

end

theorem Node.mem_within_self (n : Node) : n ∈ n.within := by
  cases n with
  | text content => simp [Node.within]
  | placeholders t => simp [Node.within]
  | bind b => simp [Node.within]
  | conditional first others otherwise => cases otherwise <;> simp [Node.within]
  | choose cases otherwise span => cases otherwise <;> simp [Node.within]
  | foreach head body => simp [Node.within]
  | sequence children => simp [Node.within]

/-- The bodies between which a node chooses. -/
def Node.bodies : Node → List Body
  | .conditional first others otherwise =>
    first.body :: (others.map Branch.body ++ otherwise.toList)
  | .choose cases otherwise _ => cases.map Case.body ++ otherwise.toList
  | _ => []

/-- True of the nodes that decide what is run inside them: chains, choices and
loops. -/
def Node.isControl : Node → Bool
  | .conditional _ _ _ => true
  | .choose _ _ _ => true
  | .foreach _ _ => true
  | _ => false

/-- Every branch has a scope of its own exactly if it binds a variable. -/
def Node.OwnsBinds (n : Node) : Prop :=
  ∀ m ∈ n.within, ∀ b ∈ m.bodies, b.ownScope = b.containsBind

-- ============================================================ membership

theorem Body.within_eq (b : Body) : b.within = b.node.within := by
  obtain ⟨own, node⟩ := b
  rfl

theorem Node.mem_allWithin {nodes : List Node} {m : Node} :
    m ∈ Node.allWithin nodes ↔ ∃ n ∈ nodes, m ∈ n.within := by
  induction nodes with
  | nil => simp [Node.allWithin]
  | cons n rest ih => simp [Node.allWithin, ih]

theorem Branch.mem_allWithin {branches : List Branch} {m : Node} :
    m ∈ Branch.allWithin branches ↔ ∃ b ∈ branches.map Branch.body, m ∈ b.within := by
  induction branches with
  | nil => simp [Branch.allWithin]
  | cons b rest ih =>
    obtain ⟨tag, test, body, span⟩ := b
    rw [Branch.allWithin, List.mem_append, ih]
    simp only [List.map_cons, List.mem_cons, exists_eq_or_imp]
    exact Iff.rfl

theorem Case.mem_allWithin {cases : List Case} {m : Node} :
    m ∈ Case.allWithin cases ↔ ∃ b ∈ cases.map Case.body, m ∈ b.within := by
  induction cases with
  | nil => simp [Case.allWithin]
  | cons k rest ih =>
    obtain ⟨test, breaks, body, span⟩ := k
    rw [Case.allWithin, List.mem_append, ih]
    simp only [List.map_cons, List.mem_cons, exists_eq_or_imp]

/-- Below a chain is what is in its bodies. -/
theorem Node.mem_within_conditional {first : Branch} {others : List Branch}
    {otherwise : Option Body} {m : Node} :
    m ∈ (Node.conditional first others otherwise).within
      ↔ m = .conditional first others otherwise
        ∨ ∃ b ∈ (Node.conditional first others otherwise).bodies, m ∈ b.within := by
  obtain ⟨tag, test, body, span⟩ := first
  cases otherwise with
  | none =>
    rw [Node.within, List.mem_cons, List.append_nil, List.mem_append, Branch.mem_allWithin]
    simp only [Node.bodies, Option.toList_none, List.append_nil, List.mem_cons,
      exists_eq_or_imp]
    exact Iff.rfl
  | some last =>
    rw [Node.within, List.mem_cons, List.mem_append, List.mem_append, Branch.mem_allWithin]
    simp only [Node.bodies, Option.toList_some, List.mem_append, List.mem_cons, or_and_right,
      exists_or, exists_eq_left, List.not_mem_nil, or_false]
    exact Iff.rfl

/-- Below a choice is what is in its bodies. -/
theorem Node.mem_within_choose {cases : List Case} {otherwise : Option Body}
    {span : Option Span} {m : Node} :
    m ∈ (Node.choose cases otherwise span).within
      ↔ m = .choose cases otherwise span
        ∨ ∃ b ∈ (Node.choose cases otherwise span).bodies, m ∈ b.within := by
  cases otherwise with
  | none =>
    rw [Node.within, List.mem_cons, List.append_nil, Case.mem_allWithin, Node.bodies,
      Option.toList_none, List.append_nil]
  | some last =>
    rw [Node.within, List.mem_cons, List.mem_append, Case.mem_allWithin]
    simp only [Node.bodies, Option.toList_some, List.mem_append, List.mem_singleton,
      or_and_right, exists_or, exists_eq_left]

-- ============================================================= induction

section Induction

variable {P : Node → Prop} (text : ∀ content, P (.text content))
  (placeholders : ∀ t, P (.placeholders t)) (bind : ∀ b, P (.bind b))
  (conditional : ∀ first others otherwise,
    (∀ b ∈ (Node.conditional first others otherwise).bodies, P b.node) →
      P (.conditional first others otherwise))
  (choose : ∀ cases otherwise span, (∀ b ∈ (Node.choose cases otherwise span).bodies, P b.node) →
    P (.choose cases otherwise span))
  (foreach : ∀ head body, P body → P (.foreach head body))
  (sequence : ∀ children, (∀ n ∈ children, P n) → P (.sequence children))
include text placeholders bind conditional choose foreach sequence

-- The theorems use the hypotheses through each other, which the linter misses.
set_option linter.unusedSectionVars false in
mutual

/-- A statement is true of all nodes if it is passed on from the nodes in its
bodies to a node that chooses between them, and from those inside to loops and
sequences. -/
theorem Node.induction : (n : Node) → P n
  | .text content => text content
  | .placeholders t => placeholders t
  | .bind b => bind b
  | .conditional first others none => by
    refine conditional _ _ _ (List.forall_mem_cons.mpr ⟨Branch.induction first, fun b hb => ?_⟩)
    rw [Option.toList_none, List.append_nil] at hb
    obtain ⟨branch, hbranch, rfl⟩ := List.mem_map.mp hb
    exact Branch.inductionAll others branch hbranch
  | .conditional first others (some last) => by
    refine conditional _ _ _ (List.forall_mem_cons.mpr ⟨Branch.induction first, fun b hb => ?_⟩)
    rcases List.mem_append.mp hb with hb | hb
    · obtain ⟨branch, hbranch, rfl⟩ := List.mem_map.mp hb
      exact Branch.inductionAll others branch hbranch
    · rw [List.mem_singleton.mp hb]
      exact Body.induction last
  | .choose cases none span => by
    refine choose _ _ _ fun b hb => ?_
    rw [Node.bodies, Option.toList_none, List.append_nil] at hb
    obtain ⟨case, hcase, rfl⟩ := List.mem_map.mp hb
    exact Case.inductionAll cases case hcase
  | .choose cases (some last) span => by
    refine choose _ _ _ fun b hb => ?_
    rcases List.mem_append.mp hb with hb | hb
    · obtain ⟨case, hcase, rfl⟩ := List.mem_map.mp hb
      exact Case.inductionAll cases case hcase
    · rw [List.mem_singleton.mp hb]
      exact Body.induction last
  | .foreach head body => foreach head body (Node.induction body)
  | .sequence children => sequence children (Node.inductionAll children)

theorem Node.inductionAll : (nodes : List Node) → ∀ n ∈ nodes, P n
  | [] => fun _ hn => nomatch hn
  | node :: rest => List.forall_mem_cons.mpr ⟨Node.induction node, Node.inductionAll rest⟩

theorem Body.induction : (body : Body) → P body.node
  | ⟨_, node⟩ => Node.induction node

theorem Branch.induction : (branch : Branch) → P branch.body.node
  | ⟨_, _, body, _⟩ => Body.induction body

theorem Branch.inductionAll : (branches : List Branch) → ∀ b ∈ branches, P b.body.node
  | [] => fun _ hb => nomatch hb
  | branch :: rest =>
    List.forall_mem_cons.mpr ⟨Branch.induction branch, Branch.inductionAll rest⟩

theorem Case.inductionAll : (cases : List Case) → ∀ k ∈ cases, P k.body.node
  | [] => fun _ hk => nomatch hk
  | ⟨_, _, body, _⟩ :: rest =>
    List.forall_mem_cons.mpr ⟨Body.induction body, Case.inductionAll rest⟩

end

end Induction

-- ================================================================ binds

theorem Branch.anyContainsBind_eq (branches : List Branch) :
    Branch.anyContainsBind branches = (branches.map Branch.body).any (·.node.containsBind) := by
  induction branches with
  | nil => rfl
  | cons b rest ih =>
    obtain ⟨tag, test, ⟨own, node⟩, span⟩ := b
    rw [Branch.anyContainsBind, ih]
    rfl

theorem Case.anyContainsBind_eq (cases : List Case) :
    Case.anyContainsBind cases = (cases.map Case.body).any (·.node.containsBind) := by
  induction cases with
  | nil => rfl
  | cons k rest ih =>
    obtain ⟨test, breaks, ⟨own, node⟩, span⟩ := k
    rw [Case.anyContainsBind, ih]
    rfl

theorem Node.anyContainsBind_eq (nodes : List Node) :
    Node.anyContainsBind nodes = nodes.any Node.containsBind := by
  induction nodes with
  | nil => rfl
  | cons n rest ih => rw [Node.anyContainsBind, ih, List.any_cons]

/-- A node that chooses between bodies binds what is bound in them. -/
theorem Node.containsBind_eq_bodies {n : Node}
    (h : (∃ first others otherwise, n = .conditional first others otherwise)
      ∨ ∃ cases otherwise span, n = .choose cases otherwise span) :
    n.containsBind = n.bodies.any (·.node.containsBind) := by
  rcases h with ⟨⟨tag, test, ⟨own, node⟩, span⟩, others, otherwise, rfl⟩
    | ⟨cases, otherwise, span, rfl⟩
  · rcases otherwise with - | ⟨own', node'⟩ <;>
      simp [Node.containsBind, Branch.containsBind, Body.containsBind, Node.bodies,
        Branch.anyContainsBind_eq, Bool.or_assoc]
  · rcases otherwise with - | ⟨own', node'⟩ <;>
      simp [Node.containsBind, Body.containsBind, Node.bodies, Case.anyContainsBind_eq]

/-- A variable is bound in a node just if a binding is within it. -/
theorem Node.containsBind_iff (n : Node) :
    n.containsBind = true ↔ ∃ b, .bind b ∈ n.within := by
  have hbodies : ∀ {m : Node}, m.containsBind = m.bodies.any (·.node.containsBind) →
      (∀ b ∈ m.bodies, b.node.containsBind = true ↔ ∃ x, .bind x ∈ b.node.within) →
      (∀ x, Node.bind x ∈ m.within ↔ ∃ b ∈ m.bodies, .bind x ∈ b.within) →
      (m.containsBind = true ↔ ∃ x, .bind x ∈ m.within) := by
    intro m hm ih hwithin
    simp only [hm, List.any_eq_true, hwithin, Body.within_eq]
    constructor
    · rintro ⟨b, hb, hbind⟩
      obtain ⟨x, hx⟩ := (ih b hb).mp hbind
      exact ⟨x, b, hb, hx⟩
    · rintro ⟨x, b, hb, hx⟩
      exact ⟨b, hb, (ih b hb).mpr ⟨x, hx⟩⟩
  induction n using Node.induction with
  | text content => simp [Node.containsBind, Node.within]
  | placeholders t => simp [Node.containsBind, Node.within]
  | bind b => simp [Node.containsBind, Node.within]
  | conditional first others otherwise ih =>
    refine hbodies (Node.containsBind_eq_bodies (.inl ⟨_, _, _, rfl⟩)) ih fun x => ?_
    rw [Node.mem_within_conditional, or_iff_right (by simp)]
  | choose cases otherwise span ih =>
    refine hbodies (Node.containsBind_eq_bodies (.inr ⟨_, _, _, rfl⟩)) ih fun x => ?_
    rw [Node.mem_within_choose, or_iff_right (by simp)]
  | foreach head body ih => simpa [Node.containsBind, Node.within] using ih
  | sequence children ih =>
    simp only [Node.containsBind, Node.anyContainsBind_eq, List.any_eq_true, Node.within,
      List.mem_cons, reduceCtorEq, false_or, Node.mem_allWithin]
    constructor
    · rintro ⟨n, hn, hbind⟩
      obtain ⟨x, hx⟩ := (ih n hn).mp hbind
      exact ⟨x, n, hn, hx⟩
    · rintro ⟨x, n, hn, hx⟩
      exact ⟨n, hn, (ih n hn).mpr ⟨x, hx⟩⟩

-- ============================================================ transitivity

/-- What is within a node that is within another one is within that one
too. -/
theorem Node.within_trans {k m : Node} (hk : k ∈ m.within) (n : Node) (hm : m ∈ n.within) :
    k ∈ n.within := by
  have hleaf : ∀ {leaf : Node}, leaf.within = [leaf] → m ∈ leaf.within → k ∈ leaf.within :=
    fun hleaf hm => by
      rw [hleaf, List.mem_singleton] at hm
      exact hm ▸ hk
  have hbody : ∀ {b : Body}, (m ∈ b.node.within → k ∈ b.node.within) →
      m ∈ b.within → k ∈ b.within := fun ih hm => by
    rw [Body.within_eq] at hm ⊢
    exact ih hm
  induction n using Node.induction with
  | text content => exact hleaf rfl hm
  | placeholders t => exact hleaf rfl hm
  | bind b => exact hleaf rfl hm
  | conditional first others otherwise ih =>
    rcases Node.mem_within_conditional.mp hm with rfl | ⟨b, hb, hm⟩
    · exact hk
    · exact Node.mem_within_conditional.mpr (.inr ⟨b, hb, hbody (ih b hb) hm⟩)
  | choose cases otherwise span ih =>
    rcases Node.mem_within_choose.mp hm with rfl | ⟨b, hb, hm⟩
    · exact hk
    · exact Node.mem_within_choose.mpr (.inr ⟨b, hb, hbody (ih b hb) hm⟩)
  | foreach head body ih =>
    rcases List.mem_cons.mp hm with rfl | hm
    · exact hk
    · exact List.mem_cons_of_mem _ (ih hm)
  | sequence children ih =>
    rcases List.mem_cons.mp hm with rfl | hm
    · exact hk
    · obtain ⟨n, hn, hm⟩ := Node.mem_allWithin.mp hm
      exact List.mem_cons_of_mem _ (Node.mem_allWithin.mpr ⟨n, hn, ih n hn hm⟩)

/-- The bodies of a node within another one are within that one. -/
theorem Node.mem_within_of_body {n m k : Node} {b : Body} (hm : m ∈ n.within) (hb : b ∈ m.bodies)
    (hk : k ∈ b.node.within) : k ∈ n.within := by
  have hbody : k ∈ b.within := by rwa [Body.within_eq]
  refine Node.within_trans ?_ n hm
  cases m with
  | conditional first others otherwise =>
    exact Node.mem_within_conditional.mpr (.inr ⟨b, hb, hbody⟩)
  | choose cases otherwise span => exact Node.mem_within_choose.mpr (.inr ⟨b, hb, hbody⟩)
  | _ => cases hb

/-- What is true of all bodies of a node is true of those inside of each of
them. -/
theorem Node.OwnsBinds.body {n m : Node} (h : n.OwnsBinds) {b : Body} (hm : m ∈ n.within)
    (hb : b ∈ m.bodies) : b.node.OwnsBinds :=
  fun k hk => h k (Node.mem_within_of_body hm hb hk)

end DynamicSql.Template
