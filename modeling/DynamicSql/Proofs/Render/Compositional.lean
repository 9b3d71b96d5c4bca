/-
What holds of every node because it holds of the actions that nodes are
made of.

Nearly every theorem about renders is an induction over built templates, and
the induction is always the same (`DynamicSql.Proofs.Render.Nodewise`). Here
it is told for properties that go further down: to the single cases of a
choice, and to the marks that cases leave for one another.

# Families

Many of these theorems compare renders with each other: with another marker,
another evaluator, other arguments. So the property is one of a family of
actions, one action for each setting of a family of settings. A statement
about single renders is the case of one setting, a comparison of two that of
two settings, and what holds for all markers at once that of one setting for
each marker.

The members of a family run in step: where an action hands its result on,
the result is the same for all of them. Only the pieces of a text and the
iterations of a loop are exempt, since those are where the text itself, or
the question whether any was written, would be handed on.

# Where an action stands

The marks of a choice are set between its cases and given back at its end.
A property that speaks of the marks holds in one form inside of a choice and
in another outside. So the property takes a flag, true inside. It also takes
the loops around the action, the innermost first.

Most properties do not look at moments and loops, and are told of plain
actions (`Compositional`).
-/
import DynamicSql.Proofs.Render.Nodewise

namespace DynamicSql.Render

open Template (Part Node Body Branch Case Piece LoopHead Bind Place)

variable {ι : Type}

/-- The marks of the innermost choice. -/
def marks : Render (Bool × Bool) := do
  let ctx ← get
  return (ctx.matched, ctx.broke)

/-- Marks a case as taken. -/
def mark (breaks : Bool) : Render Unit :=
  update fun ctx => ctx.mark breaks

namespace Traced

/-- A property of families of actions that is passed on from the actions to
those that are made of them. What it is to hold of may depend on the parts
of the template and on the loops around them. -/
structure Compositional (s : ι → Setting) (Allowed : Place → Prop)
    (Holds : (around : List LoopHead) → (inside : Bool) → (α : Type) →
      (ι → Traced α) → Prop) : Prop where
  pure : ∀ {around : List LoopHead} {inside : Bool} {α : Type} (a : α),
    Holds around inside α fun _ => Pure.pure a
  bind : ∀ {around : List LoopHead} {inside : Bool} {α β : Type} {x : ι → Traced α}
    {f : ι → α → Traced β}, Holds around inside α x →
      (∀ a, Holds around inside β fun i => f i a) →
        Holds around inside β fun i => x i >>= f i
  weaken : ∀ {around : List LoopHead} {α : Type} {x : ι → Traced α},
    Holds around false α x → Holds around true α x
  marks : ∀ {around : List LoopHead},
    Holds around true (Bool × Bool) fun _ => silent Render.marks
  mark : ∀ {around : List LoopHead} (breaks : Bool),
    Holds around true Unit fun _ => silent (Render.mark breaks)
  choice : ∀ {around : List LoopHead} {x : ι → Traced Bool}, Holds around true Bool x →
    Holds around false Bool fun i => bracket id restoreMarks (x i)
  scope : ∀ {around : List LoopHead} {x : ι → Traced Unit}, Holds around false Unit x →
    Holds around false Unit fun i => inScope true (x i)
  append : ∀ {around : List LoopHead} (text : String),
    Holds around false Unit fun _ => silent (Render.append text)
  write : ∀ {around : List LoopHead} (ps : List Piece),
    (∀ p ∈ Piece.places around ps, Allowed p) →
      Holds around false Unit fun i => write (s i) ps
  bindVariable : ∀ {around : List LoopHead} (b : Bind), Allowed ⟨around, .bind b⟩ →
    Holds around false Unit fun i => silent (Render.bindVariable (s i) b)
  test : ∀ {around : List LoopHead} (tag text : String), Allowed ⟨around, .test text⟩ →
    Holds around false Bool fun i => silent (holds (s i) tag text)
  elements : ∀ {around : List LoopHead} (head : LoopHead), Allowed ⟨around, .loop head⟩ →
    Holds around false (List Element) fun i =>
      silent (elements (s i) head.collection (head.nullable.getD (s i).foreachNullable))
  iterations : ∀ {around : List LoopHead} {x : ι → Traced Unit} (head : LoopHead)
    (found : List Element), Allowed ⟨around, .loop head⟩ → Holds (head :: around) false Unit x →
      Holds around false Unit fun i => iterations head (x i) false 0 found
  noting : ∀ {around : List LoopHead} {x : ι → Traced Bool} (n : Node),
    Holds around false Bool x → Holds around false Bool fun i => noting (.node n) (x i)

namespace Compositional

variable {s : ι → Setting} {Allowed : Place → Prop}
  {Holds : (around : List LoopHead) → (inside : Bool) → (α : Type) → (ι → Traced α) → Prop}
  {around : List LoopHead}

-- ====================================================== actions made of others

theorem handledBy (h : Compositional s Allowed Holds) {inside : Bool} {x : ι → Traced Unit}
    (hx : Holds around inside Unit x) : Holds around inside Bool fun i => handledBy (x i) :=
  h.bind hx fun _ => h.pure true

/-- A case reads the marks before it does anything else. -/
theorem case (h : Compositional s Allowed Holds) {test : String} {breaks : Bool}
    (ht : Allowed ⟨around, .test test⟩) {body : ι → Traced Unit}
    (hb : Holds around false Unit body) :
    Holds around true Bool fun i => case (s i) test breaks (body i) := by
  have hbody : Holds around true Unit body := h.weaken hb
  refine h.bind (f := fun i m => if m.1 && !m.2 then Traced.handledBy (body i)
    else silent (holds (s i) "when" test) >>= fun taken =>
      if taken then body i >>= fun _ => silent (Render.mark breaks) >>= fun _ => Pure.pure true
      else Pure.pure false) h.marks fun m => ?_
  cases m.1 && !m.2 with
  | true =>
    simp only [if_true]
    exact h.handledBy hbody
  | false =>
    simp only [Bool.false_eq_true, if_false]
    refine h.bind (h.weaken (h.test "when" test ht)) fun taken => ?_
    cases taken with
    | true =>
      simp only [if_true]
      exact h.bind hbody fun _ => h.bind (h.mark breaks) fun _ => h.pure true
    | false => exact h.pure false

theorem andThenCases (h : Compositional s Allowed Holds) {first rest : ι → Traced Bool}
    (hf : Holds around true Bool first) (hr : Holds around true Bool rest) :
    Holds around true Bool fun i => andThenCases (first i) (rest i) := by
  refine h.bind hf fun handled => ?_
  refine h.bind (f := fun i m => if m.1 && m.2 then Pure.pure handled
    else rest i >>= fun later => Pure.pure (handled || later)) h.marks fun m => ?_
  cases m.1 && m.2 with
  | true =>
    simp only [if_true]
    exact h.pure handled
  | false =>
    simp only [Bool.false_eq_true, if_false]
    exact h.bind hr fun later => h.pure (handled || later)

/-- Cases are run one after the other. -/
theorem cases (h : Compositional s Allowed Holds) (ks : List (CaseOf (ι → Traced Unit)))
    (hk : ∀ k ∈ ks, Allowed ⟨around, .test k.test⟩ ∧ Holds around false Unit k.body) :
    Holds around true Bool fun i => cases (s i) (ks.map (CaseOf.at_ · i)) := by
  induction ks with
  | nil => exact h.pure false
  | cons k rest ih =>
    obtain ⟨⟨ht, hb⟩, hrest⟩ := List.forall_mem_cons.mp hk
    exact h.andThenCases (h.case ht hb) (ih hrest)

/-- What is left for when no case was taken is told as an action of its own,
which hands on whether it was there. -/
theorem choiceOf (h : Compositional s Allowed Holds) {cases : ι → Traced Bool}
    (last : Option (ι → Traced Unit)) (hc : Holds around true Bool cases)
    (hl : ∀ x ∈ last, Holds around false Unit x) :
    Holds around false Bool fun i => Traced.choice (cases i) (last.map fun x => x i) := by
  refine h.choice (h.bind hc fun handled => ?_)
  have hrest : ∀ {y : ι → Traced Bool}, Holds around true Bool y →
      Holds around true Bool fun i => silent Render.marks >>= fun m : Bool × Bool =>
        if m.1 then Pure.pure handled else y i := fun hy =>
    h.bind h.marks fun m => by
      cases m.1 with
      | true =>
        simp only [if_true]
        exact h.pure handled
      | false =>
        simp only [Bool.false_eq_true, if_false]
        exact hy
  cases last with
  | none => exact hrest (h.pure handled)
  | some x => exact hrest (h.handledBy (h.weaken (hl x rfl)))

-- ================================================================== nodes

/-- What is compositional is nodewise, when it is asked of whole choices
only. -/
theorem nodewise (h : Compositional s Allowed Holds) :
    Nodewise s Allowed (fun _ => True) fun around α x => Holds around false α x where
  pure a := h.pure a
  bind hx hf := h.bind hx hf
  scope hx := h.scope hx
  append text := h.append text
  write ps ha := h.write ps ha
  bindVariable b ha := h.bindVariable b ha
  test tag text ha := h.test tag text ha
  elements head ha := h.elements head ha
  iterations head found ha hx := h.iterations head found ha hx
  choice ks last hk hl := h.choiceOf last (h.cases ks hk) hl
  noting n _ hx := h.noting n hx

/-- What is compositional holds of every node whose parts allow it. -/
theorem node (h : Compositional s Allowed Holds) (around : List LoopHead) (n : Node)
    (ha : ∀ p ∈ n.places around, Allowed p) : Holds around false Bool fun i => n.traced (s i) :=
  h.nodewise.node around n ha fun _ _ => trivial

end Compositional

end Traced

-- ============================================================ plain actions

/-- A property of families of actions that is passed on to those that are
made of them, and that looks neither at moments nor at the loops around. -/
structure Compositional (s : ι → Setting) (Allowed : Part → Prop)
    (Holds : (inside : Bool) → (α : Type) → (ι → Render α) → Prop) : Prop where
  pure : ∀ {inside : Bool} {α : Type} (a : α), Holds inside α fun _ => Pure.pure a
  bind : ∀ {inside : Bool} {α β : Type} {x : ι → Render α} {f : ι → α → Render β},
    Holds inside α x → (∀ a, Holds inside β fun i => f i a) →
      Holds inside β fun i => x i >>= f i
  weaken : ∀ {α : Type} {x : ι → Render α}, Holds false α x → Holds true α x
  marks : Holds true (Bool × Bool) fun _ => marks
  mark : ∀ breaks : Bool, Holds true Unit fun _ => mark breaks
  choice : ∀ {x : ι → Render Bool}, Holds true Bool x →
    Holds false Bool fun i => bracket id restoreMarks (x i)
  scope : ∀ {x : ι → Render Unit}, Holds false Unit x →
    Holds false Unit fun i => inScope true (x i)
  append : ∀ text : String, Holds false Unit fun _ => append text
  write : ∀ ps : List Piece, (∀ part ∈ ps.filterMap Piece.part?, Allowed part) →
    Holds false Unit fun i => write (s i) ps
  bindVariable : ∀ b : Bind, Allowed (.bind b) →
    Holds false Unit fun i => bindVariable (s i) b
  test : ∀ tag text : String, Allowed (.test text) →
    Holds false Bool fun i => holds (s i) tag text
  elements : ∀ head : LoopHead, Allowed (.loop head) →
    Holds false (List Element) fun i =>
      elements (s i) head.collection (head.nullable.getD (s i).foreachNullable)
  iterations : ∀ {x : ι → Render Unit} (head : LoopHead) (found : List Element),
    Allowed (.loop head) → Holds false Unit x →
      Holds false Unit fun i => iterations head (x i) false 0 found

namespace Compositional

variable {s : ι → Setting} {Allowed : Part → Prop}
  {Holds : (inside : Bool) → (α : Type) → (ι → Render α) → Prop}

/-- A property of plain actions is one of the runs of actions that list
their moments. -/
theorem traced (h : Compositional s Allowed Holds) :
    Traced.Compositional s (fun p => Allowed p.part)
      fun _ inside α x => Holds inside α fun i => (x i).run where
  pure a := h.pure a
  bind hx hf := h.bind hx hf
  weaken hx := h.weaken hx
  marks := h.marks
  mark breaks := h.mark breaks
  choice hx := h.choice hx
  scope hx := h.scope hx
  append text := h.append text
  write {around} ps ha := by
    simp only [Traced.run_write]
    exact h.write ps fun part hp => ha ⟨around, part⟩ (List.mem_map.mpr ⟨part, hp, rfl⟩)
  bindVariable b ha := h.bindVariable b ha
  test tag text ha := h.test tag text ha
  elements head ha := h.elements head ha
  iterations head found ha hx := by
    simp only [Traced.run_iterations]
    exact h.iterations head found ha hx
  noting _ hx := hx

/-- What is compositional holds of every node whose parts allow it. -/
theorem node (h : Compositional s Allowed Holds) (around : List LoopHead) (n : Node)
    (ha : ∀ p ∈ n.places around, Allowed p.part) :
    Holds false Bool fun i => n.apply (s i) := by
  have hruns := h.traced.node around n ha
  simp only [Node.run_traced] at hruns
  exact hruns

end Compositional

-- ================================================================== loops

/-- A property of the iterations of a loop from one of a single iteration,
for families that agree about whether an iteration wrote any text. -/
theorem iterations_of_iteration (Holds : (α : Type) → (ι → Render α) → Prop)
    (pure : Holds Unit fun _ => pure ())
    (bind : ∀ {x : ι → Render Bool} {f : ι → Bool → Render Unit},
      Holds Bool x → (∀ a, Holds Unit fun i => f i a) → Holds Unit fun i => x i >>= f i)
    {head : LoopHead} {body : ι → Render Unit}
    (iteration : ∀ (separator : Option String) (key item : Value),
      Holds Bool fun i => iteration head separator key item (body i))
    (found : List Element) (wrote : Bool) (position : Nat) :
    Holds Unit fun i => iterations head (body i) wrote position found := by
  induction found generalizing wrote position with
  | nil => exact pure
  | cons e rest ih =>
    exact bind (iteration _ _ _) fun applied => ih (wrote || applied) (position + 1)

end DynamicSql.Render
