/-
What holds of a context throughout a render.

A property that every change of a context keeps holds after every node that
is applied where it held before, and of failed nodes as well. It is the
special case of two renders in step in which both are the same render.
-/
import DynamicSql.Proofs.Render.InStep

namespace DynamicSql.Render

open Template (Part Piece LoopHead)

variable {α β : Type} {P : Context → Prop}

/-- Begun where the property holds, the action leaves a context where it
holds. -/
def Keeps (P : Context → Prop) (x : Render α) : Prop :=
  ∀ ⦃c : Context⦄, P c → P (outcome x c).2

/-- An action that keeps a property is in step with itself. -/
theorem inStep_iff_keeps {x : Render α} :
    InStep (fun c d => c = d ∧ P c) x x ↔ Keeps P x := by
  constructor
  · intro h c hc
    exact (h ⟨rfl, hc⟩).2.2
  · rintro h c d ⟨rfl, hc⟩
    exact ⟨rfl, rfl, h hc⟩

theorem keeps_pure (a : α) : Keeps P (pure a) := fun _ h => h

theorem keeps_throw (e : RenderError) : Keeps P (throw e : Render α) := fun _ h => h

theorem keeps_bind {x : Render α} {f : α → Render β} (hx : Keeps P x)
    (hf : ∀ a, Keeps P (f a)) : Keeps P (x >>= f) :=
  inStep_iff_keeps.mp
    (inStep_bind (inStep_iff_keeps.mpr hx) fun a => inStep_iff_keeps.mpr (hf a))

/-- A property that a context keeps whatever is done to it, collecting a
parameter apart. -/
structure Kept (P : Context → Prop) : Prop where
  ask : ∀ {c} (text : String), P c → P (c.ask text)
  mark : ∀ {c} (breaks : Bool), P c → P (c.mark breaks)
  restore : ∀ {b a}, P b → P a → P (restoreMarks b a)
  put : ∀ {c} (name : String) (value : Value), P c → P (c.put name value)
  pushScope : ∀ {c}, P c → P c.pushScope
  popScope : ∀ {c}, P c → P c.popScope
  append : ∀ {c} (text : String), P c → P (c.append text)
  enter : ∀ {c} (item index separator : Option String), P c →
    P (c.enterIteration item index separator)
  leave : ∀ {c}, P c → P c.leaveIteration

namespace Kept

theorem steady (h : Kept P) : Steady fun c d => c = d ∧ P c where
  marks hR := by rw [hR.1]
  applied hR := by rw [hR.1]
  number hR := by rw [hR.1]
  ask text hR := ⟨by rw [hR.1], h.ask text hR.2⟩
  mark breaks hR := ⟨by rw [hR.1], h.mark breaks hR.2⟩
  restore hb ha := ⟨by rw [hb.1, ha.1], h.restore hb.2 ha.2⟩
  put name value hR := ⟨by rw [hR.1], h.put name value hR.2⟩
  pushScope hR := ⟨by rw [hR.1], h.pushScope hR.2⟩
  popScope hR := ⟨by rw [hR.1], h.popScope hR.2⟩
  append text hR := ⟨by rw [hR.1], h.append text hR.2⟩
  enter item index separator hR := ⟨by rw [hR.1], h.enter item index separator hR.2⟩
  leave hR := ⟨by rw [hR.1], h.leave hR.2⟩

variable {s : Setting}

theorem keeps_ask (h : Kept P) (text : String) (answer : Variables → Except EvalError α)
    (blame : EvalError → RenderError) : Keeps P (Render.ask text answer blame) := by
  intro c hc
  rw [outcome_ask]
  exact h.ask text hc

theorem keeps_piece (h : Kept P) (p : Piece)
    (hcollect : ∀ m, p.part? = some (.parameter m) → Keeps P (collect s m)) :
    Keeps P (piece s p) := by
  cases p with
  | literal text => exact keeps_pure text
  | interpolation text =>
    refine keeps_bind (h.keeps_ask text _ _) fun v => ?_
    cases s.filter with
    | none => exact keeps_pure v.render
    | some filter =>
      cases hf : filter.accepts v.render with
      | true =>
        simp only [hf, if_true]
        exact keeps_pure v.render
      | false =>
        simp only [hf, Bool.false_eq_true, if_false]
        exact keeps_throw _
  | parameter m =>
    intro c hc
    rw [outcome_parameter]
    exact hcollect m rfl hc

theorem keeps_pieces (h : Kept P) (ps : List Piece)
    (hcollect : ∀ m, .parameter m ∈ ps.filterMap Piece.part? → Keeps P (collect s m)) :
    Keeps P (pieces s ps) := by
  induction ps with
  | nil => exact keeps_pure ""
  | cons p rest ih =>
    refine keeps_bind (h.keeps_piece p fun m hm => ?_) fun text =>
      keeps_bind (ih fun m hm => ?_) fun others => keeps_pure _
    · exact hcollect m (List.mem_filterMap.mpr ⟨p, List.mem_cons_self .., hm⟩)
    · obtain ⟨q, hq, hqm⟩ := List.mem_filterMap.mp hm
      exact hcollect m (List.mem_filterMap.mpr ⟨q, List.mem_cons_of_mem _ hq, hqm⟩)

/-- A property that is also kept when the parameters of a node are collected
is kept by the node. -/
theorem keeps_apply (h : Kept P) (node : Template.Node)
    (hcollect : ∀ m, .parameter m ∈ node.parts → Keeps P (collect s m)) :
    Keeps P (node.apply s) := by
  have hcomp := h.steady.compositional (s := fun _ => s)
    (fun part => ∀ m, part = .parameter m → Keeps P (collect s m))
    (fun _ _ _ _ _ _ hR => by rw [hR.1]) rfl
    (fun ps ha => inStep_iff_keeps.mpr (keeps_bind
      (h.keeps_pieces ps fun m hm => ha _ hm m rfl) fun text _ hc => h.append text hc))
  refine inStep_iff_keeps.mp (hcomp.node [] node fun p hp m hm => hcollect m ?_)
  rw [← hm]
  exact List.mem_map.mpr ⟨p, hp, rfl⟩

end Kept

-- ============================================================ parameters

/-- If values are collected at all, there is one for each mapping. A
parameter whose expression fails leaves neither behind. -/
theorem keeps_length_values (s : Setting) (hs : s.collectsValues = true)
    (node : Template.Node) :
    Keeps (fun c => c.values.length = c.mappings.length) (node.apply s) := by
  have hkept : Kept fun c : Context => c.values.length = c.mappings.length := by
    refine ⟨fun _ h => h, fun _ h => h, fun _ h => h, fun _ _ h => h, fun h => h, fun h => h,
      fun {c} text h => ?_, fun _ _ _ h => h, fun h => h⟩
    rw [Context.values_append, Context.mappings_append]
    exact h
  refine hkept.keeps_apply node fun m _ c hc => ?_
  cases hv : s.evaluator (Context.uniquify c.frames m).source.text c.vars with
  | error e =>
    rw [outcome_collect_error hs hv]
    exact hc
  | ok v =>
    rw [outcome_collect_ok hs hv]
    show (c.values ++ [v]).length = (c.mappings ++ [_]).length
    rw [List.length_append, List.length_append, hc]
    rfl

/-- Where no parameters are collected, what is kept otherwise is kept. -/
theorem Kept.keeps_of_no_parameters (h : Kept P) (s : Setting) (node : Template.Node)
    (hnone : node.hasParameters = false) : Keeps P (node.apply s) := by
  refine h.keeps_apply node fun m hm => ?_
  have hsome : (node.places []).any (·.part.isParameter) = true := by
    obtain ⟨p, hp, hpm⟩ := List.mem_map.mp hm
    refine List.any_eq_true.mpr ⟨p, hp, ?_⟩
    rw [hpm]
    rfl
  rw [Template.Node.any_isParameter, hnone] at hsome
  cases hsome

/-- A node without parameter placeholders collects nothing. -/
theorem keeps_parameters (s : Setting) (node : Template.Node)
    (h : node.hasParameters = false) (ms : List Parameter.Mapping) (vs : List Value) :
    Keeps (fun c => c.mappings = ms ∧ c.values = vs) (node.apply s) := by
  have hkept : Kept fun c : Context => c.mappings = ms ∧ c.values = vs := by
    refine ⟨fun _ h => h, fun _ h => h, fun _ h => h, fun _ _ h => h, fun h => h, fun h => h,
      fun {c} text h => ?_, fun _ _ _ h => h, fun h => h⟩
    rw [Context.mappings_append, Context.values_append]
    exact h
  exact hkept.keeps_of_no_parameters s node h

theorem keeps_mappings (s : Setting) (node : Template.Node)
    (h : node.hasParameters = false) (ms : List Parameter.Mapping) :
    Keeps (fun c => c.mappings = ms) (node.apply s) :=
  fun c hc => (keeps_parameters s node h ms c.values ⟨hc, rfl⟩).1

end DynamicSql.Render
