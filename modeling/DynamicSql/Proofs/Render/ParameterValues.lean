/-
Where the values of parameters go: into the list of parameters, and nowhere
else.

Two evaluators are compared that differ only about the texts of parameters.
Their renders fail with the same error or give the same text with the same
mappings, so nothing of a parameter's value is in the text, and neither is
the course of the render decided by one.

# The relation

Two contexts are alike if they differ in the values collected, and in
nothing but what these values are: there are as many of them on both sides.
No action reads a value that was collected, so everything done to a context
can be done with the values veiled.

# Static scripts

The text of a static script was written when it was built. Then the two
evaluators are only asked for parameters, and answer all of them.
-/
import DynamicSql.Proofs.Render.InStep
import DynamicSql.Proofs.Script

namespace DynamicSql

open Template (Part Piece)

/-- The context with the values that were collected hidden. -/
def Context.veil (ctx : Context) : Context :=
  { ctx with values := ctx.values.map fun _ => .null }

/-- Contexts that differ at most in what the collected values are. -/
abbrev Context.SameButValues (c d : Context) : Prop := c.veil = d.veil

namespace Context

/-- Text can be written behind the veil. -/
theorem veil_append (c : Context) (text : String) :
    (c.append text).veil = c.veil.append text := by
  unfold append
  cases Text.allBlank text <;> cases text.isEmpty <;> rfl

/-- Behind the veil all values are the same. -/
theorem veil_addValue (c : Context) (v : Value) :
    (c.addValue v).veil = c.veil.addValue .null := by
  simp only [veil, addValue, List.map_append, List.map_cons, List.map_nil]

theorem SameButValues.frames {c d : Context} (h : SameButValues c d) : c.frames = d.frames :=
  (congrArg Context.frames h : c.veil.frames = d.veil.frames)

theorem SameButValues.vars {c d : Context} (h : SameButValues c d) : c.vars = d.vars :=
  (congrArg Context.vars h : c.veil.vars = d.veil.vars)

theorem SameButValues.number {c d : Context} (h : SameButValues c d) :
    c.mappings.length = d.mappings.length :=
  (congrArg (fun x : Context => x.mappings.length) h :
    c.veil.mappings.length = d.veil.mappings.length)

end Context

namespace Render

open Context (SameButValues veil_append)

/-- No action looks at a value that was collected. -/
theorem steady_sameButValues : Steady SameButValues where
  marks {c d} h := by
    show (c.veil.matched, c.veil.broke) = (d.veil.matched, d.veil.broke)
    rw [h]
  applied {c d} h := by
    show c.veil.hasApplied = d.veil.hasApplied
    rw [h]
  number {c d} h := by
    show c.veil.iterations = d.veil.iterations
    rw [h]
  ask {c d} text h := by
    show c.veil.ask text = d.veil.ask text
    rw [h]
  mark {c d} breaks h := by
    show c.veil.mark breaks = d.veil.mark breaks
    rw [h]
  restore {b b' a a'} hb ha := by
    show restoreMarks b.veil a.veil = restoreMarks b'.veil a'.veil
    rw [hb, ha]
  put {c d} name value h := by
    show c.veil.put name value = d.veil.put name value
    rw [h]
  pushScope {c d} h := by
    show c.veil.pushScope = d.veil.pushScope
    rw [h]
  popScope {c d} h := by
    show c.veil.popScope = d.veil.popScope
    rw [h]
  append {c d} text h := by
    rw [SameButValues, veil_append, veil_append, h]
  enter {c d} item index separator h := by
    show c.veil.enterIteration item index separator
      = d.veil.enterIteration item index separator
    rw [h]
  leave {c d} h := by
    show c.veil.leaveIteration = d.veil.leaveIteration
    rw [h]

-- ================================================================= text

section Text

variable {s : Bool → Setting} {T : List String}

/-- Settings that differ at most in their evaluators. -/
structure SameButEvaluator (s : Bool → Setting) : Prop where
  marker : (s true).marker = (s false).marker
  nullable : (s true).foreachNullable = (s false).foreachNullable
  filter : (s true).filter = (s false).filter
  collects : (s true).collectsValues = (s false).collectsValues

/-- Evaluators that give the same answers about some texts, and some value
for each of all others. -/
structure Agree (E E' : Evaluator) (T : List String) : Prop where
  inside : ∀ text ∈ T, ∀ vars, E text vars = E' text vars
  outside : ∀ text, text ∉ T → ∀ vars, (∃ v, E text vars = .ok v) ∧ ∃ v, E' text vars = .ok v

/-- Of such evaluators, both fail with the same error or both answer. -/
theorem Agree.both {E E' : Evaluator} {T : List String} (h : Agree E E' T) (text : String)
    (vars : Variables) :
    (∃ e, E text vars = .error e ∧ E' text vars = .error e)
      ∨ ∃ v v', E text vars = .ok v ∧ E' text vars = .ok v' := by
  by_cases hT : text ∈ T
  · rw [h.inside text hT vars]
    cases E' text vars with
    | error e => exact Or.inl ⟨e, rfl, rfl⟩
    | ok v => exact Or.inr ⟨v, v, rfl, rfl⟩
  · obtain ⟨⟨v, hv⟩, ⟨v', hv'⟩⟩ := h.outside text hT vars
    exact Or.inr ⟨v, v', hv, hv'⟩

/-- Collecting a parameter leaves the same behind, whatever its value. -/
theorem inStep_collect (hs : SameButEvaluator s)
    (h : Agree (s true).evaluator (s false).evaluator T) (m : Parameter.Mapping) :
    InStep SameButValues (collect (s true) m) (collect (s false) m) := by
  intro c d hR
  have hframes := hR.frames
  have hvars := hR.vars
  have hmapping : ∀ x y : Context, SameButValues x y → SameButValues
      (x.addMapping (Context.uniquify c.frames m))
      (y.addMapping (Context.uniquify d.frames m)) := by
    intro x y hxy
    show x.veil.addMapping _ = y.veil.addMapping _
    rw [hxy, hframes]
  have hask : SameButValues (c.ask (Context.uniquify c.frames m).source.text)
      (d.ask (Context.uniquify d.frames m).source.text) := by
    rw [hframes]
    exact steady_sameButValues.ask _ hR
  cases hc : (s false).collectsValues with
  | false =>
    rw [outcome_collect_plain hc, outcome_collect_plain (hs.collects.trans hc)]
    exact ⟨rfl, hmapping c d hR⟩
  | true =>
    have hc' : (s true).collectsValues = true := hs.collects.trans hc
    rcases h.both (Context.uniquify c.frames m).source.text c.vars with
      ⟨e, he, he'⟩ | ⟨v, v', hv, hv'⟩
    · rw [hvars, hframes] at he'
      rw [outcome_collect_error hc' he, outcome_collect_error hc he']
      exact ⟨rfl, hask⟩
    · rw [hvars, hframes] at hv'
      rw [outcome_collect_ok hc' hv, outcome_collect_ok hc hv']
      refine ⟨rfl, hmapping _ _ ?_⟩
      rw [SameButValues, Context.veil_addValue, Context.veil_addValue, hask]

/-- Only the texts of parameters may be answered differently, and their
values are not handed on. -/
theorem inStep_piece (hs : SameButEvaluator s)
    (h : Agree (s true).evaluator (s false).evaluator T) (p : Piece)
    (hp : ∀ part ∈ p.part?, ∀ text ∈ part.asked?, text ∈ T) :
    InStep SameButValues (piece (s true) p) (piece (s false) p) := by
  cases p with
  | literal text => exact inStep_pure text
  | interpolation text =>
    have htext : text ∈ T := hp _ rfl text rfl
    refine inStep_bind (inStep_ask (steady_sameButValues.ask _) fun {c d} hR => ?_)
      fun v => ?_
    · rw [hR.vars]
      exact h.inside text htext d.vars
    · rw [hs.filter]
      cases (s false).filter with
      | none => exact inStep_pure v.render
      | some filter =>
        cases hf : filter.accepts v.render with
        | true =>
          simp only [hf, if_true]
          exact inStep_pure v.render
        | false =>
          simp only [hf, Bool.false_eq_true, if_false]
          exact fun _ _ hR => ⟨rfl, hR⟩
  | parameter m =>
    intro c d hR
    obtain ⟨hr, hafter⟩ := inStep_collect hs h m hR
    rw [outcome_parameter, outcome_parameter, hs.marker, hR.number, hr]
    exact ⟨rfl, hafter⟩

theorem inStep_pieces (hs : SameButEvaluator s)
    (h : Agree (s true).evaluator (s false).evaluator T) (ps : List Piece)
    (hp : ∀ part ∈ ps.filterMap Piece.part?, ∀ text ∈ part.asked?, text ∈ T) :
    InStep SameButValues (pieces (s true) ps) (pieces (s false) ps) := by
  induction ps with
  | nil => exact inStep_pure ""
  | cons p rest ih =>
    refine inStep_bind (inStep_piece hs h p fun part hpart => ?_) fun text =>
      inStep_bind (ih fun part hpart => ?_) fun others => inStep_pure _
    · exact hp part (List.mem_filterMap.mpr ⟨p, List.mem_cons_self .., hpart⟩)
    · obtain ⟨q, hq, hqpart⟩ := List.mem_filterMap.mp hpart
      exact hp part (List.mem_filterMap.mpr ⟨q, List.mem_cons_of_mem _ hq, hqpart⟩)

end Text

/-- The nodes that ask for nothing but what the evaluators agree on go in
step. -/
theorem inStep_apply {s : Bool → Setting} {T : List String} (hs : SameButEvaluator s)
    (h : Agree (s true).evaluator (s false).evaluator T) (node : Template.Node)
    (hT : ∀ text ∈ node.askedTexts, text ∈ T) :
    InStep SameButValues (node.apply (s true)) (node.apply (s false)) := by
  have hcomp := steady_sameButValues.compositional (s := s)
    (fun part => ∀ text ∈ part.asked?, text ∈ T)
    (fun part ha text htext {c d} hR => by
      rw [hR.vars]
      exact h.inside text (ha text htext) d.vars)
    hs.nullable
    (fun ps ha => inStep_bind (inStep_pieces hs h ps ha) fun text =>
      inStep_update (steady_sameButValues.append text))
  refine hcomp.node [] node fun p hp text htext => hT text ?_
  exact List.mem_filterMap.mpr ⟨p.part, List.mem_map.mpr ⟨p, hp, rfl⟩, htext⟩

end Render

-- ============================================================== scripts

namespace Script

open Render (Agree)

/-- The settings of a script with either of two evaluators. -/
def settings (s : Script) (E E' : Evaluator) (first : Bool) : Setting :=
  s.settingWith (if first then E else E')

theorem sameButEvaluator_settings (s : Script) (E E' : Evaluator) :
    Render.SameButEvaluator (s.settings E E') :=
  ⟨rfl, rfl, rfl, rfl⟩

/-- Looked up among the same arguments, the same expressions fail and as many
values are found. -/
theorem lookUp_agree {E E' : Evaluator} {T : List String} (h : Agree E E' T)
    (arguments : Arguments) (mappings : List Parameter.Mapping) :
    (∃ e, lookUp E arguments mappings = .error e ∧ lookUp E' arguments mappings = .error e)
      ∨ ∃ vs vs', lookUp E arguments mappings = .ok vs
          ∧ lookUp E' arguments mappings = .ok vs' ∧ vs.length = vs'.length := by
  induction mappings with
  | nil => exact Or.inr ⟨[], [], rfl, rfl, rfl⟩
  | cons m rest ih =>
    simp only [lookUp]
    generalize (fun name => Bindings.find? arguments name) = vars
    rcases h.both m.source.text vars with ⟨e, he, he'⟩ | ⟨v, v', hv, hv'⟩
    · rw [he, he']
      exact Or.inl ⟨_, rfl, rfl⟩
    · rw [hv, hv']
      rcases ih with ⟨e, he, he'⟩ | ⟨vs, vs', hvs, hvs', hlen⟩
      · rw [he, he']
        exact Or.inl ⟨e, rfl, rfl⟩
      · rw [hvs, hvs']
        exact Or.inr ⟨v :: vs, v' :: vs', rfl, rfl, congrArg (· + 1) hlen⟩

/-- What is rendered with either evaluator has the same text and mappings
and as many values. -/
theorem parts_agree (s : Script) {E E' : Evaluator} (h : Agree E E' s.root.askedTexts)
    (arguments : Arguments) :
    (∃ e, s.parts E arguments = .error e ∧ s.parts E' arguments = .error e)
      ∨ ∃ known vs vs', s.parts E arguments = .ok (known, vs)
          ∧ s.parts E' arguments = .ok (known, vs') ∧ vs.length = vs'.length := by
  cases hres : s.resolved with
  | some known =>
    rw [parts_resolved hres, parts_resolved hres]
    rcases lookUp_agree h arguments known.mappings with
      ⟨e, he, he'⟩ | ⟨vs, vs', hvs, hvs', hlen⟩
    · rw [he, he']
      exact Or.inl ⟨e, rfl, rfl⟩
    · rw [hvs, hvs']
      exact Or.inr ⟨known, vs, vs', rfl, rfl, hlen⟩
  | none =>
    obtain ⟨hr, hsame⟩ := Render.inStep_apply (s.sameButEvaluator_settings E E') h s.root
      (fun _ ht => ht) (c := Context.start arguments) (d := Context.start arguments) rfl
    rcases hc : Render.outcome (s.root.apply (s.settingWith E)) (Context.start arguments)
      with ⟨r, c⟩
    rcases hd : Render.outcome (s.root.apply (s.settingWith E')) (Context.start arguments)
      with ⟨r', d⟩
    obtain rfl : r = r' := by
      rw [← show _ = r from congrArg Prod.fst hc, ← show _ = r' from congrArg Prod.fst hd]
      exact hr
    have hsame : c.veil = d.veil := by
      rw [← show _ = c from congrArg Prod.snd hc, ← show _ = d from congrArg Prod.snd hd]
      exact hsame
    cases r with
    | error e => exact Or.inl ⟨e, parts_of_apply_error hres hc, parts_of_apply_error hres hd⟩
    | ok handled =>
      have hsql : c.sql = d.sql := (congrArg Context.sql hsame : c.veil.sql = d.veil.sql)
      have hmappings : c.mappings = d.mappings :=
        (congrArg Context.mappings hsame : c.veil.mappings = d.veil.mappings)
      have hlen : c.veil.values.length = d.veil.values.length :=
        congrArg (fun x : Context => x.values.length) hsame
      simp only [Context.veil, List.length_map] at hlen
      refine Or.inr ⟨⟨d.sql, d.mappings⟩, c.values, d.values, ?_,
        parts_of_apply_ok hres hd, hlen⟩
      rw [← hsql, ← hmappings]
      exact parts_of_apply_ok hres hc

/-- The values of parameters reach the list of parameters and nothing else.
Two evaluators that agree on all texts of a script but those of parameters,
and that answer these, give the same error or the same text with the same
mappings. -/
theorem renderWith_sameButValues (s : Script) (arguments : Arguments) (E E' : Evaluator)
    (inside : ∀ text ∈ s.root.askedTexts, ∀ vars, E text vars = E' text vars)
    (outside : ∀ text, text ∉ s.root.askedTexts → ∀ vars,
      (∃ v, E text vars = .ok v) ∧ ∃ v, E' text vars = .ok v) :
    (∃ e, s.renderWith E arguments = .error e ∧ s.renderWith E' arguments = .error e)
      ∨ ∃ b b', s.renderWith E arguments = .ok b ∧ s.renderWith E' arguments = .ok b'
          ∧ b.sql = b'.sql
          ∧ b.parameters.map (List.map Parameter.Bound.mapping)
            = b'.parameters.map (List.map Parameter.Bound.mapping) := by
  rcases s.parts_agree ⟨inside, outside⟩ arguments with
    ⟨e, he, he'⟩ | ⟨known, vs, vs', hvs, hvs', hlen⟩
  · exact Or.inl ⟨e, renderWith_of_error he, renderWith_of_error he'⟩
  · refine Or.inr ⟨_, _, renderWith_of_ok hvs, renderWith_of_ok hvs', rfl, ?_⟩
    simp only [result]
    cases s.isPrepared with
    | false => rfl
    | true =>
      show some _ = some _
      rw [map_mapping_zipWith, map_mapping_zipWith, hlen]

/-- An evaluator that gives two elements to the loop of `listScript`, and to
each parameter in it the same value. -/
def twoElements (v : Value) : Evaluator := fun text _ =>
  if text = "xs" then .ok (.list [.null, .null]) else .ok v

/-- Two parameters that are true here and false there, in the same text. -/
theorem renderWith_sameButValues_of_two :
    ∃ b b', listScript.renderWith (twoElements (.bool true)) [] = .ok b
      ∧ listScript.renderWith (twoElements (.bool false)) [] = .ok b'
      ∧ b.sql = b'.sql
      ∧ b.parameters.map (List.map Parameter.Bound.mapping)
        = b'.parameters.map (List.map Parameter.Bound.mapping) := by
  have hasked : listScript.root.askedTexts = ["xs"] := rfl
  have hinside : ∀ text ∈ listScript.root.askedTexts, ∀ vars,
      twoElements (.bool true) text vars = twoElements (.bool false) text vars := by
    intro text ht vars
    rw [hasked, List.mem_singleton] at ht
    rw [ht]
    rfl
  have houtside : ∀ text, text ∉ listScript.root.askedTexts → ∀ vars,
      (∃ v, twoElements (.bool true) text vars = .ok v)
        ∧ ∃ v, twoElements (.bool false) text vars = .ok v := by
    intro text ht vars
    rw [hasked, List.mem_singleton] at ht
    exact ⟨⟨_, if_neg ht⟩, ⟨_, if_neg ht⟩⟩
  rcases renderWith_sameButValues listScript [] _ _ hinside houtside with ⟨e, he, -⟩ | h
  · cases he
  · exact h

end Script

end DynamicSql
