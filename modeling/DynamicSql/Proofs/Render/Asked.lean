/-
What a render asks its evaluator.

A render hands texts to the evaluator: those of tests, bindings, collections and
substituted expressions as they stand in the template, and those of parameters
under the names that the loops around give to them. A text that was renamed
begins as the names of single iterations do (`Context.text_uniquify`), however
many loops are around and whatever their variables are called. So a render sees
no more of its evaluator than the answers to the texts of the template and to
texts that begin in this way.

# One statement of two

That two evaluators with the same answers to such texts lead to the same
context, and that no others are asked for, is one statement about two renders
in step: they are begun in one context and end in one, and all that was asked
on the way is of this kind (`SeesOnly`). Only `ask` adds to what was asked, so
for all other changes of a context there is one thing to see, that they leave
it alone.
-/
import DynamicSql.Proofs.Expr.Cache
import DynamicSql.Proofs.LoopVariable
import DynamicSql.Proofs.Render.ParameterValues

namespace DynamicSql

open LoopVariable (BeginsUnique)

-- ================================================================ renaming

theorem LoopFrame.beginsUnique_of_rename? {f : LoopFrame} {property renamed : String}
    (h : f.rename? property = some renamed) : BeginsUnique renamed := by
  unfold rename? at h
  obtain ⟨before, name, after, -, hname, -⟩ := List.findSome?_eq_some_iff.mp h
  obtain ⟨rest, -, rfl⟩ := Option.map_eq_some_iff.mp hname
  rw [BeginsUnique, String.toList_append, LoopVariable.toList_uniqueName, List.append_assoc]
  exact List.prefix_append _ _

namespace Context

/-- A property that loops do not leave as it is has the name of a single
iteration at its beginning. -/
theorem renamed_cases (frames : List LoopFrame) (property : String) :
    renamed frames property = property ∨ BeginsUnique (renamed frames property) := by
  induction frames generalizing property with
  | nil => exact .inl rfl
  | cons f rest ih =>
    show renamed rest ((f.rename? property).getD property) = property
      ∨ BeginsUnique (renamed rest ((f.rename? property).getD property))
    cases hf : f.rename? property with
    | none => exact ih property
    | some next =>
      rw [Option.getD_some]
      rcases ih next with heq | hbegins
      · exact .inr (heq.symm ▸ LoopFrame.beginsUnique_of_rename? hf)
      · exact .inr hbegins

theorem text_uniquify (frames : List LoopFrame) (m : Parameter.Mapping) :
    (uniquify frames m).source.text = m.source.text
      ∨ BeginsUnique (uniquify frames m).source.text := by
  obtain ⟨source, jdbcType, options⟩ := m
  cases source with
  | property path => exact renamed_cases frames path
  | expression text => exact .inl rfl

/-- All that was asked is of one kind. -/
def OnlyAsks (T : String → Prop) (c : Context) : Prop := ∀ text ∈ c.asked, T text

theorem OnlyAsks.ask {T : String → Prop} {c : Context} (h : c.OnlyAsks T) {text : String}
    (ht : T text) : (c.ask text).OnlyAsks T := by
  intro other hother
  rcases List.mem_append.mp hother with hother | hother
  · exact h other hother
  · obtain rfl := List.mem_singleton.mp hother
    exact ht

theorem asked_append (c : Context) (text : String) : (c.append text).asked = c.asked := by
  unfold append
  cases Text.allBlank text <;> cases text.isEmpty <;> rfl

theorem asked_putLoopVariable (c : Context) (unique : Nat) (name : Option String)
    (value : Value) : (c.putLoopVariable unique name value).asked = c.asked := by
  cases name <;> rfl

end Context

namespace Render

open Template (Part Piece LoopHead)

variable {α β : Type} {T : String → Prop} {s : Bool → Setting}

-- ================================================================== in step

/-- Begun in one context, both actions give the same result and leave one
context, and what they ask for is of one kind. -/
def SeesOnly (T : String → Prop) (x y : Render α) : Prop :=
  InStep (fun c d => c = d ∧ c.OnlyAsks T) x y

theorem SeesOnly.outcome_eq {x y : Render α} (h : SeesOnly T x y) {c : Context}
    (hc : c.OnlyAsks T) : outcome x c = outcome y c ∧ (outcome x c).2.OnlyAsks T := by
  obtain ⟨hresult, hcontext, honly⟩ := h ⟨rfl, hc⟩
  exact ⟨Prod.ext hresult hcontext, honly⟩

/-- A change of the context that asks for nothing. -/
theorem seesOnly_update {f : Context → Context} (h : ∀ c, (f c).asked = c.asked) :
    SeesOnly T (update f) (update f) := by
  refine inStep_update fun {c d} hR => ⟨congrArg f hR.1, ?_⟩
  rw [Context.OnlyAsks, h]
  exact hR.2

/-- Looking at the context, and doing the same with what was seen. -/
theorem seesOnly_get (f : Context → α) :
    SeesOnly T (get >>= fun ctx => pure (f ctx)) (get >>= fun ctx => pure (f ctx)) :=
  inStep_get fun hR => ⟨by rw [hR.1], hR⟩

theorem seesOnly_bracket {enter : Context → Context} {leave : Context → Context → Context}
    {x y : Render α} (henter : ∀ c, (enter c).asked = c.asked)
    (hleave : ∀ before after, (leave before after).asked = after.asked) (h : SeesOnly T x y) :
    SeesOnly T (bracket enter leave x) (bracket enter leave y) := by
  refine inStep_bracket (fun {c d} hR => ⟨congrArg enter hR.1, ?_⟩)
    (fun {b b' a a'} hb ha => ⟨by rw [hb.1, ha.1], ?_⟩) h
  · rw [Context.OnlyAsks, henter]
    exact hR.2
  · rw [Context.OnlyAsks, hleave]
    exact ha.2

theorem seesOnly_ask {text : String} {answer answer' : Variables → Except EvalError α}
    {blame : EvalError → RenderError} (ht : T text) (h : ∀ vars, answer vars = answer' vars) :
    SeesOnly T (ask text answer blame) (ask text answer' blame) :=
  inStep_ask (fun hR => ⟨by rw [hR.1], hR.2.ask ht⟩) fun hR => by rw [hR.1, h]

-- ============================================================== evaluators

/-- Settings with evaluators that give the same answers to texts of a kind, to
which all texts belong that begin with the name of a single iteration. -/
structure AgreeOn (s : Bool → Setting) (T : String → Prop) : Prop where
  same : SameButEvaluator s
  answer : ∀ text, T text → ∀ vars, (s true).evaluator text vars = (s false).evaluator text vars
  unique : ∀ text, BeginsUnique text → T text

namespace AgreeOn

/-- A parameter is asked for by its own text, or by one that begins with the
name of a single iteration. -/
theorem collect (h : AgreeOn s T) {m : Parameter.Mapping} (hm : T m.source.text) :
    SeesOnly T (collect (s true) m) (collect (s false) m) := by
  rintro c _ ⟨rfl, hc⟩
  have htext : T (Context.uniquify c.frames m).source.text := by
    rcases Context.text_uniquify c.frames m with heq | hbegins
    · exact heq.symm ▸ hm
    · exact h.unique _ hbegins
  have hanswer := h.answer _ htext c.vars
  have hsame := h.same.collects
  cases hcollects : (s false).collectsValues with
  | false =>
    rw [hcollects] at hsame
    rw [outcome_collect_plain hsame, outcome_collect_plain hcollects]
    exact ⟨rfl, rfl, hc⟩
  | true =>
    rw [hcollects] at hsame
    cases hv : (s false).evaluator (Context.uniquify c.frames m).source.text c.vars with
    | error e =>
      rw [hv] at hanswer
      rw [outcome_collect_error hsame hanswer, outcome_collect_error hcollects hv]
      exact ⟨rfl, rfl, hc.ask htext⟩
    | ok v =>
      rw [hv] at hanswer
      rw [outcome_collect_ok hsame hanswer, outcome_collect_ok hcollects hv]
      exact ⟨rfl, rfl, hc.ask htext⟩

theorem piece (h : AgreeOn s T) (p : Piece) (hp : ∀ part ∈ p.part?, T part.text) :
    SeesOnly T (piece (s true) p) (piece (s false) p) := by
  cases p with
  | literal text => exact inStep_pure text
  | interpolation text =>
    have htext : T text := hp _ rfl
    refine inStep_bind (seesOnly_ask htext (h.answer text htext)) fun v => ?_
    rw [h.same.filter]
    cases (s false).filter with
    | none => exact inStep_pure v.render
    | some filter =>
      cases hf : filter.accepts v.render with
      | true =>
        simp only [hf, if_true]
        exact inStep_pure v.render
      | false =>
        simp only [hf, Bool.false_eq_true, if_false]
        exact fun _ _ hR => ⟨rfl, hR⟩
  | parameter m =>
    rintro c _ ⟨rfl, hc⟩
    obtain ⟨heq, honly⟩ := (h.collect (hp _ rfl)).outcome_eq hc
    rw [outcome_parameter, outcome_parameter, h.same.marker, heq]
    exact ⟨rfl, rfl, heq ▸ honly⟩

theorem pieces (h : AgreeOn s T) (ps : List Piece)
    (hp : ∀ part ∈ ps.filterMap Piece.part?, T part.text) :
    SeesOnly T (pieces (s true) ps) (pieces (s false) ps) := by
  induction ps with
  | nil => exact inStep_pure ""
  | cons p rest ih =>
    refine inStep_bind (h.piece p fun part hpart => ?_) fun text =>
      inStep_bind (ih fun part hpart => ?_) fun others => inStep_pure _
    · exact hp part (List.mem_filterMap.mpr ⟨p, List.mem_cons_self, hpart⟩)
    · obtain ⟨q, hq, hqpart⟩ := List.mem_filterMap.mp hpart
      exact hp part (List.mem_filterMap.mpr ⟨q, List.mem_cons_of_mem _ hq, hqpart⟩)

/-- An iteration asks for what its body does. -/
theorem seesOnly_iteration {head : LoopHead} {separator : Option String} {key item : Value}
    {x y : Render Unit} (h : SeesOnly T x y) :
    SeesOnly T (iteration head separator key item x) (iteration head separator key item y) := by
  refine seesOnly_bracket (fun _ => rfl) (fun _ _ => rfl) ?_
  refine inStep_bind (seesOnly_update fun c => ?_) fun _ =>
    inStep_bind h fun _ => seesOnly_get Context.hasApplied
  rw [Context.asked_putLoopVariable, Context.asked_putLoopVariable]

/-- Each action that nodes are made of asks for nothing but the texts of its
parts. -/
theorem compositional (h : AgreeOn s T) :
    Compositional s (fun part => T part.text) fun _ _ x => SeesOnly T (x true) (x false) where
  pure a := inStep_pure a
  bind hx hf := inStep_bind hx hf
  weaken hx := hx
  marks := seesOnly_get fun ctx => (ctx.matched, ctx.broke)
  mark _ := seesOnly_update fun _ => rfl
  choice hx := seesOnly_bracket (fun _ => rfl) (fun _ _ => rfl) hx
  scope hx := seesOnly_bracket (fun _ => rfl) (fun _ _ => rfl) hx
  append text := seesOnly_update fun c => c.asked_append text
  write ps hp := inStep_bind (h.pieces ps hp) fun text =>
    seesOnly_update fun c => c.asked_append text
  bindVariable b hb :=
    inStep_bind (seesOnly_ask hb (h.answer b.value hb)) fun _ => seesOnly_update fun _ => rfl
  test tag text ht := seesOnly_ask ht fun vars =>
    congrArg (Except.map Value.isTruthy) (h.answer text ht vars)
  elements head hhead := by
    simp only [h.same.nullable]
    refine inStep_bind (seesOnly_ask hhead fun vars => ?_) fun found => inStep_pure _
    exact congrArg (fun r => r >>= Evaluator.elements _) (h.answer head.collection hhead vars)
  iterations head found _ hx :=
    iterations_of_iteration (fun _ x => SeesOnly T (x true) (x false)) (inStep_pure ())
      inStep_bind (fun _ _ _ => seesOnly_iteration hx) found false 0

/-- So does each node. -/
theorem apply (h : AgreeOn s T) (node : Template.Node) (hT : ∀ part ∈ node.parts, T part.text) :
    SeesOnly T (node.apply (s true)) (node.apply (s false)) :=
  h.compositional.node [] node fun p hp => hT p.part (List.mem_map.mpr ⟨p, hp, rfl⟩)

end AgreeOn

end Render

end DynamicSql
