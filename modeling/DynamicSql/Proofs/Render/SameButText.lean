/-
What a render does apart from the text it writes.

Two renders that put different markers into their text collect the same
parameters, and one succeeds if the other does. This holds of blank markers
too, although these change more than the places in which they stand: a text
that is blank pays no separators, so whether an iteration counts as having
written something may depend on the marker.

# The relation

Contexts are the same but for their text if they differ in what was written
and in what loops owe or have paid, and in nothing else. The text of a
placeholder and the question whether an iteration wrote something are
answered differently on both sides. So where these are handed on, the
actions go abreast only: both succeed, with whatever results, or both fail
with the same error.
-/
import DynamicSql.Proofs.Render.InStep

namespace DynamicSql

open Template (Part Piece LoopHead)

/-- The setting with certain markers. -/
def Setting.withMarkers (base : Setting) (label : Nat → String) : Setting :=
  { base with marker := label }

namespace LoopFrame

/-- The frame without what it owes or has paid. -/
def silence (f : LoopFrame) : LoopFrame := { f with separator := none, applied := false }

/-- The same iterations, whatever they owe. -/
theorem mem_of_silence_eq {frames frames' : List LoopFrame}
    (h : frames.map silence = frames'.map silence) {f : LoopFrame}
    (hf : f ∈ frames) : ∃ g ∈ frames', g.names = f.names ∧ g.unique = f.unique := by
  have hmem : f.silence ∈ frames'.map silence := by
    rw [← h]
    exact List.mem_map.mpr ⟨f, hf, rfl⟩
  obtain ⟨g, hg, heq⟩ := List.mem_map.mp hmem
  exact ⟨g, hg, (congrArg names heq :), (congrArg unique heq :)⟩

end LoopFrame

namespace Context

/-- The context without its text, and without the debts that are paid in
text. -/
def silence (ctx : Context) : Context :=
  { ctx with fragments := [], frames := ctx.frames.map LoopFrame.silence }

/-- Contexts that differ at most in their text. -/
abbrev SameButText (c d : Context) : Prop := c.silence = d.silence

/-- Names do not depend on separators. -/
theorem renamed_silence (frames : List LoopFrame) (property : String) :
    renamed (frames.map LoopFrame.silence) property = renamed frames property := by
  induction frames generalizing property with
  | nil => rfl
  | cons f rest ih => exact ih _

theorem uniquify_silence (frames : List LoopFrame) (m : Parameter.Mapping) :
    uniquify (frames.map LoopFrame.silence) m = uniquify frames m := by
  unfold uniquify
  cases m.property? with
  | none => rfl
  | some property => simp only [renamed_silence]

theorem silence_settle (frames : List LoopFrame) :
    (settle frames).map LoopFrame.silence = frames.map LoopFrame.silence := by
  rw [settle, List.map_map]
  rfl

/-- Writing leaves nothing but text. -/
theorem silence_append (c : Context) (text : String) : (c.append text).silence = c.silence := by
  unfold append silence
  cases Text.allBlank text <;> cases text.isEmpty <;> simp [silence_settle]

theorem silence_leaveIteration (c : Context) :
    c.leaveIteration.silence = c.silence.leaveIteration := by
  show { c with fragments := [], frames := c.frames.tail.map LoopFrame.silence }.popScope
    = { c with fragments := [], frames := (c.frames.map LoopFrame.silence).tail }.popScope
  rw [List.map_tail]

namespace SameButText

variable {c d : Context}

theorem uniquify (h : SameButText c d) (m : Parameter.Mapping) :
    Context.uniquify c.frames m = Context.uniquify d.frames m := by
  rw [← uniquify_silence c.frames, ← uniquify_silence d.frames]
  exact congrArg (fun x : Context => Context.uniquify x.frames m) h

theorem vars (h : SameButText c d) : c.vars = d.vars :=
  (congrArg Context.vars h : c.silence.vars = d.silence.vars)

theorem marks (h : SameButText c d) : (c.matched, c.broke) = (d.matched, d.broke) := by
  show (c.silence.matched, c.silence.broke) = (d.silence.matched, d.silence.broke)
  rw [h]

theorem number (h : SameButText c d) : c.iterations = d.iterations :=
  (congrArg Context.iterations h : c.silence.iterations = d.silence.iterations)

theorem mappings (h : SameButText c d) : c.mappings = d.mappings :=
  (congrArg Context.mappings h : c.silence.mappings = d.silence.mappings)

theorem values (h : SameButText c d) : c.values = d.values :=
  (congrArg Context.values h : c.silence.values = d.silence.values)

theorem ask (h : SameButText c d) (text : String) : SameButText (c.ask text) (d.ask text) := by
  show c.silence.ask text = d.silence.ask text
  rw [h]

theorem put (h : SameButText c d) (name : String) (value : Value) :
    SameButText (c.put name value) (d.put name value) := by
  show c.silence.put name value = d.silence.put name value
  rw [h]

theorem putLoopVariable (h : SameButText c d) (unique : Nat) (name : Option String)
    (value : Value) :
    SameButText (c.putLoopVariable unique name value) (d.putLoopVariable unique name value) := by
  cases name with
  | none => exact h
  | some name => exact (h.put _ _).put _ _

theorem pushScope (h : SameButText c d) : SameButText c.pushScope d.pushScope := by
  show c.silence.pushScope = d.silence.pushScope
  rw [h]

theorem popScope (h : SameButText c d) : SameButText c.popScope d.popScope := by
  show c.silence.popScope = d.silence.popScope
  rw [h]

/-- The separators of the iterations entered may differ. -/
theorem enter (h : SameButText c d) (item index separator separator' : Option String) :
    SameButText (c.enterIteration item index separator)
      (d.enterIteration item index separator') := by
  show c.silence.enterIteration item index none = d.silence.enterIteration item index none
  rw [h]

theorem leave (h : SameButText c d) : SameButText c.leaveIteration d.leaveIteration := by
  rw [SameButText, silence_leaveIteration, silence_leaveIteration, h]

/-- The texts written may differ. -/
theorem append (h : SameButText c d) (text text' : String) :
    SameButText (c.append text) (d.append text') := by
  rw [SameButText, silence_append, silence_append, h]

end SameButText

end Context

namespace Render

open Context (SameButText)

variable {α β : Type} {R : Context → Context → Prop}

/-- Begun in related contexts, both actions succeed or both fail with the
same error, and they leave related contexts. -/
def Abreast (R : Context → Context → Prop) (x y : Render α) : Prop :=
  ∀ ⦃c d : Context⦄, R c d →
    ((∃ a b, (outcome x c).1 = .ok a ∧ (outcome y d).1 = .ok b)
        ∨ ∃ e, (outcome x c).1 = .error e ∧ (outcome y d).1 = .error e)
      ∧ R (outcome x c).2 (outcome y d).2

theorem abreast_of_inStep {x y : Render α} (h : InStep R x y) : Abreast R x y := by
  intro c d hR
  obtain ⟨hr, hs⟩ := h hR
  refine ⟨?_, hs⟩
  rw [hr]
  cases (outcome y d).1 with
  | error e => exact Or.inr ⟨e, rfl, rfl⟩
  | ok a => exact Or.inl ⟨a, a, rfl, rfl⟩

/-- Without results there is nothing in which the results could differ. -/
theorem inStep_of_abreast {x y : Render Unit} (h : Abreast R x y) : InStep R x y := by
  intro c d hR
  obtain ⟨⟨a, b, ha, hb⟩ | ⟨e, he, he'⟩, hs⟩ := h hR
  · exact ⟨ha.trans hb.symm, hs⟩
  · exact ⟨he.trans he'.symm, hs⟩

theorem abreast_pure (a b : α) : Abreast R (pure a) (pure b) :=
  fun _ _ hR => ⟨Or.inl ⟨a, b, rfl, rfl⟩, hR⟩

/-- What comes second has to go abreast whatever the two results were. -/
theorem abreast_bind {x y : Render α} {f g : α → Render β} (hx : Abreast R x y)
    (hf : ∀ a b, Abreast R (f a) (g b)) : Abreast R (x >>= f) (y >>= g) := by
  intro c d hR
  obtain ⟨hr, hs⟩ := hx hR
  rw [outcome_bind, outcome_bind]
  rcases hc : outcome x c with ⟨r, c'⟩
  rcases hd : outcome y d with ⟨r', d'⟩
  rw [hc, hd] at hr hs
  obtain ⟨a, b, ha, hb⟩ | ⟨e, he, he'⟩ := hr
  · obtain rfl : r = .ok a := ha
    obtain rfl : r' = .ok b := hb
    exact hf a b hs
  · obtain rfl : r = .error e := he
    obtain rfl : r' = .error e := he'
    exact ⟨Or.inr ⟨e, rfl, rfl⟩, hs⟩

theorem abreast_bracket {enter enter' : Context → Context}
    {leave leave' : Context → Context → Context} {x y : Render α}
    (henter : ∀ {c d}, R c d → R (enter c) (enter' d))
    (hleave : ∀ {b b' a a'}, R b b' → R a a' → R (leave b a) (leave' b' a'))
    (hx : Abreast R x y) : Abreast R (bracket enter leave x) (bracket enter' leave' y) := by
  intro c d hR
  obtain ⟨hr, hs⟩ := hx (henter hR)
  exact ⟨hr, hleave hR hs⟩

-- ================================================================= text

section Text

variable (base : Setting) (label label' : Nat → String)

theorem inStep_collect_withMarkers (m : Parameter.Mapping) :
    InStep SameButText (collect (base.withMarkers label) m)
      (collect (base.withMarkers label') m) := by
  intro c d hR
  have hmapping : ∀ x y : Context, SameButText x y → SameButText
      (x.addMapping (Context.uniquify c.frames m))
      (y.addMapping (Context.uniquify d.frames m)) := by
    intro x y hxy
    show x.silence.addMapping _ = y.silence.addMapping _
    rw [hxy, hR.uniquify]
  have hasked : SameButText (c.ask (Context.uniquify c.frames m).source.text)
      (d.ask (Context.uniquify d.frames m).source.text) := by
    rw [hR.uniquify]
    exact hR.ask _
  cases hc : base.collectsValues with
  | false =>
    rw [outcome_collect_plain (show (base.withMarkers label).collectsValues = false from hc),
      outcome_collect_plain (show (base.withMarkers label').collectsValues = false from hc)]
    exact ⟨rfl, hmapping c d hR⟩
  | true =>
    have hs : (base.withMarkers label).collectsValues = true := hc
    have hs' : (base.withMarkers label').collectsValues = true := hc
    cases hv : base.evaluator (Context.uniquify d.frames m).source.text d.vars with
    | error e =>
      have hv' := hv
      rw [← hR.uniquify, ← hR.vars] at hv'
      rw [outcome_collect_error hs hv', outcome_collect_error hs' hv]
      exact ⟨rfl, hasked⟩
    | ok v =>
      have hv' := hv
      rw [← hR.uniquify, ← hR.vars] at hv'
      rw [outcome_collect_ok hs hv', outcome_collect_ok hs' hv]
      refine ⟨rfl, hmapping _ _ ?_⟩
      show Context.addValue (Context.silence _) v = Context.addValue (Context.silence _) v
      rw [hasked]

theorem abreast_piece (p : Piece) :
    Abreast SameButText (piece (base.withMarkers label) p)
      (piece (base.withMarkers label') p) := by
  cases p with
  | literal text => exact abreast_pure text text
  | interpolation text =>
    refine abreast_of_inStep (inStep_bind (inStep_ask (fun hR => hR.ask text) fun hR => ?_)
      fun v => ?_)
    · exact congrArg (base.evaluator text) hR.vars
    · have hfilter : ∀ l, (base.withMarkers l).filter = base.filter := fun _ => rfl
      simp only [hfilter]
      cases base.filter with
      | none => exact inStep_pure v.render
      | some filter =>
        cases hf : filter.accepts v.render with
        | true =>
          simp only [hf, if_true]
          exact inStep_pure v.render
        | false =>
          simp only [hf, Bool.false_eq_true, if_false]
          exact fun _ _ hR => ⟨rfl, hR⟩
  | parameter m =>
    intro c d hR
    obtain ⟨hr, hafter⟩ := inStep_collect_withMarkers base label label' m hR
    rw [outcome_parameter, outcome_parameter]
    refine ⟨?_, hafter⟩
    rw [hr]
    cases (outcome (collect (base.withMarkers label') m) d).1 with
    | error e => exact Or.inr ⟨e, rfl, rfl⟩
    | ok a => exact Or.inl ⟨_, _, rfl, rfl⟩

theorem abreast_pieces (ps : List Piece) :
    Abreast SameButText (pieces (base.withMarkers label) ps)
      (pieces (base.withMarkers label') ps) := by
  induction ps with
  | nil => exact abreast_pure "" ""
  | cons p rest ih =>
    exact abreast_bind (abreast_piece base label label' p) fun _ _ =>
      abreast_bind ih fun _ _ => abreast_pure _ _

theorem inStep_append (text text' : String) :
    InStep SameButText (append text) (append text') :=
  fun _ _ hR => ⟨rfl, hR.append text text'⟩

end Text

-- ================================================================ loops

theorem abreast_iteration {x y : Render Unit} (hx : InStep SameButText x y) (head : LoopHead)
    (separator separator' : Option String) (key item : Value) :
    Abreast SameButText (iteration head separator key item x)
      (iteration head separator' key item y) := by
  refine abreast_bracket (fun hR => hR.enter _ _ _ _) (fun _ hR => hR.leave) ?_
  refine abreast_bind (abreast_of_inStep (inStep_update fun {c d} hR => ?_)) fun _ _ =>
    abreast_bind (abreast_of_inStep hx) fun _ _ => ?_
  · rw [hR.number]
    exact (hR.putLoopVariable _ _ _).putLoopVariable _ _ _
  · exact fun c d hR => ⟨Or.inl ⟨c.hasApplied, d.hasApplied, rfl, rfl⟩, hR⟩

/-- Both loops go over the same elements, though one may have written text
before the other. -/
theorem inStep_iterations {x y : Render Unit} (hx : InStep SameButText x y) (head : LoopHead)
    (found : List Element) (wrote wrote' : Bool) (position : Nat) :
    InStep SameButText (iterations head x wrote position found)
      (iterations head y wrote' position found) := by
  induction found generalizing wrote wrote' position with
  | nil => exact inStep_pure ()
  | cons e rest ih =>
    refine inStep_of_abreast (abreast_bind (abreast_iteration hx head _ _ _ _) fun a b => ?_)
    exact abreast_of_inStep (ih (wrote || a) (wrote' || b) (position + 1))

-- ================================================================ nodes

/-- Apart from their text, renders with different markers are the same. -/
theorem inStep_withMarkers (base : Setting) (label label' : Nat → String) :
    Compositional (fun first : Bool => base.withMarkers (if first then label else label'))
      (fun _ => True) fun _ _ x => InStep SameButText (x true) (x false) where
  pure a := inStep_pure a
  bind hx hf := inStep_bind hx hf
  weaken hx := hx
  marks := inStep_get fun hR => ⟨congrArg Except.ok hR.marks, hR⟩
  mark breaks := inStep_update fun {c d} hR => by
    show c.silence.mark breaks = d.silence.mark breaks
    rw [hR]
  choice hx := inStep_bracket id (fun {b b' a a'} hb ha => by
    show restoreMarks b.silence a.silence = restoreMarks b'.silence a'.silence
    rw [hb, ha]) hx
  scope hx := inStep_bracket (fun hR => hR.pushScope) (fun _ hR => hR.popScope) hx
  append text := inStep_append text text
  write ps _ := inStep_of_abreast
    (abreast_bind (abreast_pieces base label label' ps) fun text text' =>
      abreast_of_inStep (inStep_append text text'))
  bindVariable b _ :=
    inStep_bind
      (inStep_ask (fun hR => hR.ask b.value) fun hR => congrArg (base.evaluator b.value) hR.vars)
      fun v => inStep_update fun hR => hR.put b.name v
  test tag text _ :=
    inStep_ask (fun hR => hR.ask text) fun hR =>
      congrArg (base.evaluator.condition text) hR.vars
  elements head _ :=
    inStep_bind
      (inStep_ask (fun hR => hR.ask head.collection) fun hR => congrArg
        (base.evaluator.collection (head.nullable.getD base.foreachNullable) head.collection)
        hR.vars)
      fun found => inStep_pure (found.getD [])
  iterations head found _ hx := inStep_iterations hx head found false false 0

/-- Whatever the markers are, a node gives the same result and leaves the
same context but for the text. -/
theorem inStep_apply_withMarkers (base : Setting) (label label' : Nat → String)
    (node : Template.Node) :
    InStep SameButText (node.apply (base.withMarkers label))
      (node.apply (base.withMarkers label')) :=
  (inStep_withMarkers base label label').node [] node fun _ _ => trivial

/-- A node that is handled with some markers is handled with all. -/
theorem apply_ok_withMarkers {base : Setting} {node : Template.Node} {c d : Context}
    {handled : Bool} (h : outcome (node.apply base) c = (.ok handled, d))
    (label : Nat → String) :
    ∃ d', outcome (node.apply (base.withMarkers label)) c = (.ok handled, d')
      ∧ SameButText d d' := by
  obtain ⟨hr, hs⟩ := inStep_apply_withMarkers base base.marker label node (c := c) (d := c) rfl
  have hbase : outcome (node.apply (base.withMarkers base.marker)) c = (.ok handled, d) := h
  rw [hbase] at hr hs
  rcases hrun : outcome (node.apply (base.withMarkers label)) c with ⟨r, d'⟩
  rw [hrun] at hr hs
  exact ⟨d', congrArg (Prod.mk · d') hr.symm, hs⟩

end Render

end DynamicSql
