/-
Two renders in step.

Two actions are in step under a relation between contexts if, begun in
related contexts, they give the same result and leave related contexts. A
relation that every change of a context keeps, and that shows the evaluator
no difference, puts the renders of every node in step. So a theorem about
two renders comes down to the choice of a relation.

# What the relation must show

The marks of a choice and whether an iteration has written text decide what
is done next, so related contexts agree on them. That is also why a relation
between contexts that write different text needs care: the texts may differ,
but not in whether they are blank.
-/
import DynamicSql.Proofs.Render.Compositional

namespace DynamicSql.Render

open Template (Part Piece LoopHead Bind)

variable {α β : Type} {R : Context → Context → Prop}

/-- Begun in related contexts, both give the same result and leave related
contexts. -/
def InStep (R : Context → Context → Prop) (x y : Render α) : Prop :=
  ∀ ⦃c d : Context⦄, R c d →
    (outcome x c).1 = (outcome y d).1 ∧ R (outcome x c).2 (outcome y d).2

-- ==================================================== actions made of others

theorem inStep_pure (a : α) : InStep R (pure a) (pure a) :=
  fun _ _ h => ⟨rfl, h⟩

theorem inStep_bind {x y : Render α} {f g : α → Render β} (hx : InStep R x y)
    (hf : ∀ a, InStep R (f a) (g a)) : InStep R (x >>= f) (y >>= g) := by
  intro c d h
  obtain ⟨hr, hs⟩ := hx h
  rw [outcome_bind, outcome_bind]
  rcases hc : outcome x c with ⟨r, c'⟩
  rcases hd : outcome y d with ⟨r', d'⟩
  rw [hc, hd] at hr hs
  obtain rfl : r = r' := hr
  cases r with
  | error e => exact ⟨rfl, hs⟩
  | ok a => exact hf a hs

theorem inStep_update {f g : Context → Context} (h : ∀ {c d}, R c d → R (f c) (g d)) :
    InStep R (update f) (update g) :=
  fun _ _ hR => ⟨rfl, h hR⟩

/-- What is done after looking at the context may depend on it. -/
theorem inStep_get {f g : Context → Render α}
    (h : ∀ {c d}, R c d → (outcome (f c) c).1 = (outcome (g d) d).1
      ∧ R (outcome (f c) c).2 (outcome (g d) d).2) :
    InStep R (get >>= f) (get >>= g) :=
  fun _ _ hR => h hR

theorem inStep_bracket {enter : Context → Context} {leave : Context → Context → Context}
    {x y : Render α} (henter : ∀ {c d}, R c d → R (enter c) (enter d))
    (hleave : ∀ {b b' a a'}, R b b' → R a a' → R (leave b a) (leave b' a'))
    (hx : InStep R x y) : InStep R (bracket enter leave x) (bracket enter leave y) := by
  intro c d h
  obtain ⟨hr, hs⟩ := hx (henter h)
  exact ⟨hr, hleave h hs⟩

theorem inStep_ask {text : String} {answer answer' : Variables → Except EvalError α}
    {blame : EvalError → RenderError}
    (hasked : ∀ {c d}, R c d → R (c.ask text) (d.ask text))
    (hanswer : ∀ {c d}, R c d → answer c.vars = answer' d.vars) :
    InStep R (ask text answer blame) (ask text answer' blame) := by
  intro c d h
  rw [outcome_ask, outcome_ask]
  exact ⟨congrArg (Except.mapError blame) (hanswer h), hasked h⟩

-- ========================================================= steady relations

/-- A relation that contexts keep whatever is done to both of them, and that
shows what decides about the next action. -/
structure Steady (R : Context → Context → Prop) : Prop where
  marks : ∀ {c d}, R c d → (c.matched, c.broke) = (d.matched, d.broke)
  applied : ∀ {c d}, R c d → c.hasApplied = d.hasApplied
  number : ∀ {c d}, R c d → c.iterations = d.iterations
  ask : ∀ {c d} (text : String), R c d → R (c.ask text) (d.ask text)
  mark : ∀ {c d} (breaks : Bool), R c d → R (c.mark breaks) (d.mark breaks)
  restore : ∀ {b b' a a'}, R b b' → R a a' → R (restoreMarks b a) (restoreMarks b' a')
  put : ∀ {c d} (name : String) (value : Value), R c d → R (c.put name value) (d.put name value)
  pushScope : ∀ {c d}, R c d → R c.pushScope d.pushScope
  popScope : ∀ {c d}, R c d → R c.popScope d.popScope
  append : ∀ {c d} (text : String), R c d → R (c.append text) (d.append text)
  enter : ∀ {c d} (item index separator : Option String), R c d →
    R (c.enterIteration item index separator) (d.enterIteration item index separator)
  leave : ∀ {c d}, R c d → R c.leaveIteration d.leaveIteration

namespace Steady

theorem putLoopVariable (h : Steady R) {c d : Context} (unique : Nat) (name : Option String)
    (value : Value) (hR : R c d) :
    R (c.putLoopVariable unique name value) (d.putLoopVariable unique name value) := by
  cases name with
  | none => exact hR
  | some name => exact h.put _ _ (h.put _ _ hR)

theorem iteration (h : Steady R) {head : LoopHead} {separator : Option String}
    {key item : Value} {x y : Render Unit} (hx : InStep R x y) :
    InStep R (iteration head separator key item x) (iteration head separator key item y) := by
  refine inStep_bracket (fun hR => h.enter _ _ _ hR) (fun _ hR => h.leave hR) ?_
  refine inStep_bind (inStep_update fun {c d} hR => ?_) fun _ => inStep_bind hx fun _ => ?_
  · rw [h.number hR]
    exact h.putLoopVariable _ _ _ (h.putLoopVariable _ _ _ hR)
  · exact inStep_get fun hR => ⟨congrArg Except.ok (h.applied hR), hR⟩

/-- A steady relation puts two settings in step, if their evaluators give
the same answers about all parts and what they do with pieces of text is in
step. -/
theorem compositional (h : Steady R) {s : Bool → Setting} (Allowed : Part → Prop)
    (answer : ∀ part, Allowed part → ∀ text ∈ part.asked?, ∀ {c d}, R c d →
      (s true).evaluator text c.vars = (s false).evaluator text d.vars)
    (nullable : (s true).foreachNullable = (s false).foreachNullable)
    (write : ∀ ps : List Piece, (∀ part ∈ ps.filterMap Piece.part?, Allowed part) →
      InStep R (write (s true) ps) (write (s false) ps)) :
    Compositional s Allowed fun _ _ x => InStep R (x true) (x false) where
  pure a := inStep_pure a
  bind hx hf := inStep_bind hx hf
  weaken hx := hx
  marks := inStep_get fun hR => ⟨congrArg Except.ok (h.marks hR), hR⟩
  mark breaks := inStep_update fun hR => h.mark breaks hR
  choice hx := inStep_bracket id (fun hb ha => h.restore hb ha) hx
  scope hx := inStep_bracket (fun hR => h.pushScope hR) (fun _ hR => h.popScope hR) hx
  append text := inStep_update fun hR => h.append text hR
  write := write
  bindVariable b ha :=
    inStep_bind
      (inStep_ask (fun hR => h.ask _ hR) (fun hR => answer _ ha b.value rfl hR))
      fun v => inStep_update fun hR => h.put _ _ hR
  test tag text ha :=
    inStep_ask (fun hR => h.ask _ hR) fun hR =>
      congrArg (Except.map Value.isTruthy) (answer _ ha text rfl hR)
  elements head ha := by
    simp only [nullable]
    refine inStep_bind (inStep_ask (fun hR => h.ask _ hR) fun hR => ?_) fun found =>
      inStep_pure _
    exact congrArg (fun r => r >>= Evaluator.elements _) (answer _ ha head.collection rfl hR)
  iterations head found ha hx :=
    iterations_of_iteration (fun _ x => InStep R (x true) (x false)) (inStep_pure ())
      inStep_bind (fun _ _ _ => h.iteration hx) found false 0

end Steady

end DynamicSql.Render
