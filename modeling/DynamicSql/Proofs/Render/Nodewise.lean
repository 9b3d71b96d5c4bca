/-
The induction over nodes, done once.

A statement about actions is true of every node if it is passed on from the
actions inside to each way of putting actions together: one after the other,
in a scope, as a loop, as a choice. Here is the induction over built templates
that says so, for an arbitrary statement (`Nodewise.node`). Whoever uses it
never meets branches and cases, only lists of them.

# Families

The statement is one about a family of actions, one action for each setting of
a family of settings. So it may compare renders with each other.

# Choices

The cases of a choice share marks, and a statement that is passed on from one
action to the next need not be true of a case alone. So a choice is put
together in one step, of all its bodies. A statement that does speak of single
cases (`DynamicSql.Proofs.Render.Compositional`) is a special case.
-/
import DynamicSql.Proofs.Render.Trace
import DynamicSql.Proofs.Template.Nodes

namespace DynamicSql.Render

open Template (Node Body Branch Case Piece LoopHead Bind Place)

variable {ι : Type}

/-- A case of a choice, with what is done when it is taken. -/
structure CaseOf (β : Type) where
  test : String
  breaks : Bool
  body : β

namespace CaseOf

/-- The case of one setting. -/
def at_ (k : CaseOf (ι → Traced Unit)) (i : ι) : CaseOf (Traced Unit) :=
  ⟨k.test, k.breaks, k.body i⟩

end CaseOf

namespace Traced

/-- Runs cases until one of them ends the choice. -/
def cases (s : Setting) : List (CaseOf (Traced Unit)) → Traced Bool
  | [] => pure false
  | k :: rest => andThenCases (case s k.test k.breaks k.body) (cases s rest)

/-- The case that a built one is under a setting. -/
def caseOf (s : Setting) (k : Case) : CaseOf (Traced Unit) :=
  ⟨k.test, k.breaks, k.body.traced s⟩

/-- The case that a built one is under each setting of a family. -/
def caseIn (s : ι → Setting) (k : Case) : CaseOf (ι → Traced Unit) :=
  ⟨k.test, k.breaks, fun i => k.body.traced (s i)⟩

theorem tracedAll_eq_cases (s : Setting) (cs : List Case) :
    Case.tracedAll s cs = cases s (cs.map (caseOf s)) := by
  induction cs with
  | nil => rfl
  | cons k rest ih =>
    obtain ⟨test, breaks, body, span⟩ := k
    show andThenCases (case s test breaks (body.traced s)) (Case.tracedAll s rest) = _
    rw [ih]
    rfl

/-- A choice runs its cases, and its last body if there is one. -/
theorem traced_choose (s : Setting) (cs : List Case) (otherwise : Option Body)
    (span : Option Span) :
    (Node.choose cs otherwise span).traced s
      = noting (.node (.choose cs otherwise span))
          (choice (cases s (cs.map (caseOf s))) (otherwise.map fun b => b.traced s)) := by
  rw [← tracedAll_eq_cases]
  cases otherwise <;> rfl

/-- A statement about families of actions that is passed on from the actions
to those that nodes make of them. What it is to be true of may depend on the
places of the template, on the nodes in it and on the loops around. -/
structure Nodewise (s : ι → Setting) (Allowed : Place → Prop) (Known : Node → Prop)
    (Holds : (around : List LoopHead) → (α : Type) → (ι → Traced α) → Prop) : Prop where
  pure : ∀ {around : List LoopHead} {α : Type} (a : α), Holds around α fun _ => Pure.pure a
  bind : ∀ {around : List LoopHead} {α β : Type} {x : ι → Traced α} {f : ι → α → Traced β},
    Holds around α x → (∀ a, Holds around β fun i => f i a) →
      Holds around β fun i => x i >>= f i
  scope : ∀ {around : List LoopHead} {x : ι → Traced Unit}, Holds around Unit x →
    Holds around Unit fun i => inScope true (x i)
  append : ∀ {around : List LoopHead} (text : String),
    Holds around Unit fun _ => silent (Render.append text)
  write : ∀ {around : List LoopHead} (ps : List Piece),
    (∀ p ∈ Piece.places around ps, Allowed p) → Holds around Unit fun i => write (s i) ps
  bindVariable : ∀ {around : List LoopHead} (b : Bind), Allowed ⟨around, .bind b⟩ →
    Holds around Unit fun i => silent (Render.bindVariable (s i) b)
  test : ∀ {around : List LoopHead} (tag text : String), Allowed ⟨around, .test text⟩ →
    Holds around Bool fun i => silent (holds (s i) tag text)
  elements : ∀ {around : List LoopHead} (head : LoopHead), Allowed ⟨around, .loop head⟩ →
    Holds around (List Element) fun i =>
      silent (elements (s i) head.collection (head.nullable.getD (s i).foreachNullable))
  iterations : ∀ {around : List LoopHead} {x : ι → Traced Unit} (head : LoopHead)
    (found : List Element), Allowed ⟨around, .loop head⟩ → Holds (head :: around) Unit x →
      Holds around Unit fun i => iterations head (x i) false 0 found
  choice : ∀ {around : List LoopHead} (ks : List (CaseOf (ι → Traced Unit)))
    (last : Option (ι → Traced Unit)),
    (∀ k ∈ ks, Allowed ⟨around, .test k.test⟩ ∧ Holds around Unit k.body) →
      (∀ x ∈ last, Holds around Unit x) →
        Holds around Bool fun i =>
          Traced.choice (cases (s i) (ks.map (CaseOf.at_ · i))) (last.map fun x => x i)
  noting : ∀ {around : List LoopHead} {x : ι → Traced Bool} (n : Node), Known n →
    Holds around Bool x → Holds around Bool fun i => noting (.node n) (x i)

namespace Nodewise

variable {s : ι → Setting} {Allowed : Place → Prop} {Known : Node → Prop}
  {Holds : (around : List LoopHead) → (α : Type) → (ι → Traced α) → Prop}
  {around : List LoopHead}

-- ====================================================== actions made of others

theorem ignoring (h : Nodewise s Allowed Known Holds) {α : Type} {x : ι → Traced α}
    (hx : Holds around α x) : Holds around Unit fun i => ignoring (x i) :=
  h.bind hx fun _ => h.pure ()

theorem handledBy (h : Nodewise s Allowed Known Holds) {x : ι → Traced Unit}
    (hx : Holds around Unit x) : Holds around Bool fun i => handledBy (x i) :=
  h.bind hx fun _ => h.pure true

theorem inScope (h : Nodewise s Allowed Known Holds) (own : Bool) {x : ι → Traced Unit}
    (hx : Holds around Unit x) : Holds around Unit fun i => inScope own (x i) := by
  cases own with
  | true => exact h.scope hx
  | false => exact hx

theorem appendOption (h : Nodewise s Allowed Known Holds) (text : Option String) :
    Holds around Unit fun _ => silent (appendOption text) := by
  cases text with
  | none => exact h.pure ()
  | some text => exact h.append text

theorem branch (h : Nodewise s Allowed Known Holds) {tag test : String}
    (ht : Allowed ⟨around, .test test⟩) {body : ι → Traced Unit} {next : ι → Traced Bool}
    (hb : Holds around Unit body) (hn : Holds around Bool next) :
    Holds around Bool fun i => branch (s i) tag test (body i) (next i) := by
  refine h.bind (h.test tag test ht) fun taken => ?_
  cases taken with
  | true => exact h.handledBy hb
  | false => exact hn

/-- A loop is put together of its iterations over whatever it finds. -/
theorem loop (h : Nodewise s Allowed Known Holds) {head : LoopHead}
    (ha : Allowed ⟨around, .loop head⟩) {body : ι → Traced Unit}
    (hb : ∀ found, Holds around Unit fun i => Traced.iterations head (body i) false 0 found) :
    Holds around Unit fun i => loop (s i) head (body i) := by
  refine h.bind (h.elements head ha) fun found => ?_
  cases found with
  | nil => exact h.pure ()
  | cons e rest =>
    refine h.bind (h.appendOption head.opening) fun _ => ?_
    refine h.bind (hb (e :: rest)) fun _ => ?_
    exact h.appendOption head.closing

-- ==================================================== nodes of their bodies

/-- Branches are put together of their bodies. -/
theorem branchesOf (h : Nodewise s Allowed Known Holds) (bs : List Branch)
    (hb : ∀ b ∈ bs, Allowed ⟨around, .test b.test⟩
      ∧ Holds around Unit fun i => b.body.traced (s i))
    {next : ι → Traced Bool} (hn : Holds around Bool next) :
    Holds around Bool fun i => Branch.tracedAll (s i) (next i) bs := by
  induction bs with
  | nil => exact hn
  | cons b rest ih =>
    obtain ⟨⟨ht, hbody⟩, hrest⟩ := List.forall_mem_cons.mp hb
    obtain ⟨tag, test, body, span⟩ := b
    exact h.branch ht hbody (ih hrest)

theorem conditionalOf (h : Nodewise s Allowed Known Holds) {first : Branch}
    {others : List Branch} {otherwise : Option Body}
    (hk : Known (.conditional first others otherwise))
    (hb : ∀ b ∈ first :: others, Allowed ⟨around, .test b.test⟩
      ∧ Holds around Unit fun i => b.body.traced (s i))
    (hl : ∀ b ∈ otherwise, Holds around Unit fun i => b.traced (s i)) :
    Holds around Bool fun i => (Node.conditional first others otherwise).traced (s i) := by
  cases otherwise with
  | none => exact h.noting _ hk (h.branchesOf (first :: others) hb (h.pure false))
  | some body =>
    exact h.noting _ hk (h.branchesOf (first :: others) hb (h.handledBy (hl body rfl)))

theorem chooseOf (h : Nodewise s Allowed Known Holds) {cs : List Case}
    {otherwise : Option Body} {span : Option Span} (hk : Known (.choose cs otherwise span))
    (hc : ∀ k ∈ cs, Allowed ⟨around, .test k.test⟩ ∧ Holds around Unit fun i => k.body.traced (s i))
    (hl : ∀ b ∈ otherwise, Holds around Unit fun i => b.traced (s i)) :
    Holds around Bool fun i => (Node.choose cs otherwise span).traced (s i) := by
  have hlast : ∀ x ∈ otherwise.map fun b i => b.traced (s i), Holds around Unit x := by
    intro x hx
    obtain ⟨b, hb, rfl⟩ := Option.map_eq_some_iff.mp hx
    exact hl b hb
  have hchoice := h.choice (cs.map (caseIn s)) _ (List.forall_mem_map.mpr hc) hlast
  simp only [List.map_map, Option.map_map] at hchoice
  simp only [traced_choose]
  exact h.noting _ hk hchoice

theorem foreachOf (h : Nodewise s Allowed Known Holds) {head : LoopHead} {body : Node}
    (hk : Known (.foreach head body)) (ha : Allowed ⟨around, .loop head⟩)
    (hb : ∀ found, Holds around Unit fun i =>
      Traced.iterations head (Traced.ignoring (body.traced (s i))) false 0 found) :
    Holds around Bool fun i => (Node.foreach head body).traced (s i) :=
  h.noting _ hk (h.handledBy (h.loop ha hb))

-- ================================================================== nodes

mutual

/-- A nodewise statement is true of every node whose places allow it and whose
nodes are known. -/
theorem node (h : Nodewise s Allowed Known Holds) (around : List LoopHead) :
    (n : Node) → (∀ p ∈ n.places around, Allowed p) → (∀ m ∈ n.within, Known m) →
      Holds around Bool fun i => n.traced (s i)
  | .text content, _, hk =>
    h.noting (.text content) (hk _ (Node.mem_within_self _))
      (h.bind (h.append content) fun _ => h.pure true)
  | .placeholders t, ha, hk =>
    h.noting (.placeholders t) (hk _ (Node.mem_within_self _)) (h.handledBy (h.write t.pieces ha))
  | .bind b, ha, hk => by
    have hb : Allowed ⟨around, .bind b⟩ := ha _ (List.mem_singleton.mpr rfl)
    exact h.noting (.bind b) (hk _ (Node.mem_within_self _))
      (h.bind (h.bindVariable b hb) fun _ => h.pure false)
  | .conditional first others none, ha, hk => by
    have hfirst := branch_ h around first (fun p hp => ha p (List.mem_append_left _ hp))
      fun m hm => hk m (List.mem_cons_of_mem _ (List.mem_append_left _ hm))
    have hothers := branches h around others
      (fun p hp => ha p (List.mem_append_right _ (List.mem_append_left _ hp)))
      fun m hm => hk m (List.mem_cons_of_mem _ (List.mem_append_right _ (List.mem_append_left _ hm)))
    exact h.conditionalOf (hk _ (Node.mem_within_self _))
      (List.forall_mem_cons.mpr ⟨hfirst, hothers⟩) fun _ hb => nomatch hb
  | .conditional first others (some body), ha, hk => by
    have hfirst := branch_ h around first (fun p hp => ha p (List.mem_append_left _ hp))
      fun m hm => hk m (List.mem_cons_of_mem _ (List.mem_append_left _ hm))
    have hothers := branches h around others
      (fun p hp => ha p (List.mem_append_right _ (List.mem_append_left _ hp)))
      fun m hm => hk m (List.mem_cons_of_mem _ (List.mem_append_right _ (List.mem_append_left _ hm)))
    have hlast := body_ h around body
      (fun p hp => ha p (List.mem_append_right _ (List.mem_append_right _ hp)))
      fun m hm => hk m (List.mem_cons_of_mem _ (List.mem_append_right _ (List.mem_append_right _ hm)))
    refine h.conditionalOf (hk _ (Node.mem_within_self _))
      (List.forall_mem_cons.mpr ⟨hfirst, hothers⟩) fun b hb => ?_
    obtain rfl := Option.some.inj hb
    exact hlast
  | .choose cs none span, ha, hk => by
    have hcases := cases_ h around cs (fun p hp => ha p (List.mem_append_left _ hp))
      fun m hm => hk m (List.mem_cons_of_mem _ (List.mem_append_left _ hm))
    exact h.chooseOf (hk _ (Node.mem_within_self _)) hcases fun _ hb => nomatch hb
  | .choose cs (some body) span, ha, hk => by
    have hcases := cases_ h around cs (fun p hp => ha p (List.mem_append_left _ hp))
      fun m hm => hk m (List.mem_cons_of_mem _ (List.mem_append_left _ hm))
    have hlast := body_ h around body (fun p hp => ha p (List.mem_append_right _ hp))
      fun m hm => hk m (List.mem_cons_of_mem _ (List.mem_append_right _ hm))
    refine h.chooseOf (hk _ (Node.mem_within_self _)) hcases fun b hb => ?_
    obtain rfl := Option.some.inj hb
    exact hlast
  | .foreach head body, ha, hk => by
    have hhead : Allowed ⟨around, .loop head⟩ := ha _ (List.mem_cons_self ..)
    have hbody := node h (head :: around) body (fun p hp => ha p (List.mem_cons_of_mem _ hp))
      fun m hm => hk m (List.mem_cons_of_mem _ hm)
    exact h.foreachOf (hk _ (Node.mem_within_self _)) hhead fun found =>
      h.iterations head found hhead (h.ignoring hbody)
  | .sequence children, ha, hk =>
    h.noting _ (hk _ (Node.mem_within_self _)) (h.bind
      (nodes h around children ha fun m hm => hk m (List.mem_cons_of_mem _ hm)) fun _ => h.pure true)

theorem nodes (h : Nodewise s Allowed Known Holds) (around : List LoopHead) :
    (ns : List Node) → (∀ p ∈ Node.allPlaces around ns, Allowed p) →
      (∀ m ∈ Node.allWithin ns, Known m) → Holds around Unit fun i => Node.tracedAll (s i) ns
  | [], _, _ => h.pure ()
  | n :: rest, ha, hk => by
    refine h.bind (h.ignoring (node h around n (fun p hp => ?_) fun m hm => ?_)) fun _ =>
      nodes h around rest (fun p hp => ?_) fun m hm => ?_
    · exact ha p (List.mem_append_left _ hp)
    · exact hk m (List.mem_append_left _ hm)
    · exact ha p (List.mem_append_right _ hp)
    · exact hk m (List.mem_append_right _ hm)

theorem body_ (h : Nodewise s Allowed Known Holds) (around : List LoopHead) :
    (b : Body) → (∀ p ∈ b.places around, Allowed p) → (∀ m ∈ b.within, Known m) →
      Holds around Unit fun i => b.traced (s i)
  | ⟨own, n⟩, ha, hk => h.inScope own (h.ignoring (node h around n ha hk))

theorem branch_ (h : Nodewise s Allowed Known Holds) (around : List LoopHead) :
    (b : Branch) → (∀ p ∈ b.places around, Allowed p) → (∀ m ∈ b.within, Known m) →
      Allowed ⟨around, .test b.test⟩ ∧ Holds around Unit fun i => b.body.traced (s i)
  | ⟨_, _, body, _⟩, ha, hk =>
    ⟨ha _ (List.mem_cons_self ..),
      body_ h around body (fun p hp => ha p (List.mem_cons_of_mem _ hp)) hk⟩

theorem branches (h : Nodewise s Allowed Known Holds) (around : List LoopHead) :
    (bs : List Branch) → (∀ p ∈ Branch.allPlaces around bs, Allowed p) →
      (∀ m ∈ Branch.allWithin bs, Known m) →
        ∀ b ∈ bs, Allowed ⟨around, .test b.test⟩ ∧ Holds around Unit fun i => b.body.traced (s i)
  | [], _, _ => fun _ hb => nomatch hb
  | b :: rest, ha, hk =>
    List.forall_mem_cons.mpr
      ⟨branch_ h around b (fun p hp => ha p (List.mem_append_left _ hp))
        fun m hm => hk m (List.mem_append_left _ hm),
      branches h around rest (fun p hp => ha p (List.mem_append_right _ hp))
        fun m hm => hk m (List.mem_append_right _ hm)⟩

theorem cases_ (h : Nodewise s Allowed Known Holds) (around : List LoopHead) :
    (cs : List Case) → (∀ p ∈ Case.allPlaces around cs, Allowed p) →
      (∀ m ∈ Case.allWithin cs, Known m) →
        ∀ k ∈ cs, Allowed ⟨around, .test k.test⟩ ∧ Holds around Unit fun i => k.body.traced (s i)
  | [], _, _ => fun _ hk => nomatch hk
  | ⟨test, breaks, body, span⟩ :: rest, ha, hk => by
    have hbody := body_ h around body
      (fun p hp => ha p (List.mem_cons_of_mem _ (List.mem_append_left _ hp)))
      fun m hm => hk m (List.mem_append_left _ hm)
    have hrest := cases_ h around rest
      (fun p hp => ha p (List.mem_cons_of_mem _ (List.mem_append_right _ hp)))
      fun m hm => hk m (List.mem_append_right _ hm)
    exact List.forall_mem_cons.mpr ⟨⟨ha _ (List.mem_cons_self ..), hbody⟩, hrest⟩

end

end Nodewise

end Traced

end DynamicSql.Render
