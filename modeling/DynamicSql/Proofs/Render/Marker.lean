/-
Markers and parameters: the text of a render has the marker of each parameter
in it, once and in the order in which the parameters were collected.

# Drafts

A draft is a context whose text is sketched: the markers in it are left open.
An action makes one draft of another, whatever the markers are, and filling
the drafts before and after with any markers that can be seen gives a run of
the action. In a draft that is numbered the open places are those of all
parameters collected so far, in order. Every action that succeeds keeps it
so: the place is left open in the piece that collects the parameter.

An action that fails may have collected a parameter whose marker it did not
come to write. But then there is no text either.
-/
import DynamicSql.Proofs.Render.SameButText
import DynamicSql.Proofs.Render.Sketch

namespace DynamicSql

open Template (Part Piece)

/-- A context with a sketched text. The text of the context itself is not
looked at. -/
structure Draft where
  ctx : Context
  written : List Sketch

namespace Draft

/-- The context with the markers put in. -/
def fill (d : Draft) (label : Labels) : Context :=
  { d.ctx with fragments := d.written.map (Sketch.fill label.1) }

/-- The open places are those of the parameters collected, in order. -/
def Numbered (d : Draft) : Prop :=
  d.written.flatMap Sketch.numbers = List.range d.ctx.mappings.length

end Draft

namespace Render

variable {α β : Type}

/-- An action that makes drafts of drafts, the same for all markers. -/
def Sketched (x : Labels → Render α) : Prop :=
  ∀ d : Draft, d.Numbered → ∃ (r : Except RenderError α) (d' : Draft),
    (∀ a, r = .ok a → d'.Numbered) ∧ ∀ label, outcome (x label) (d.fill label) = (r, d'.fill label)

-- ==================================================== actions made of others

theorem sketched_pure (a : α) : Sketched fun _ => pure a :=
  fun d hd => ⟨.ok a, d, fun _ _ => hd, fun _ => rfl⟩

theorem sketched_bind {x : Labels → Render α} {f : Labels → α → Render β} (hx : Sketched x)
    (hf : ∀ a, Sketched fun label => f label a) :
    Sketched fun label => x label >>= f label := by
  intro d hd
  obtain ⟨r, e, he, hrun⟩ := hx d hd
  cases r with
  | error err =>
    refine ⟨.error err, e, (fun _ h => nomatch h), fun label => ?_⟩
    exact outcome_bind_error (hrun label)
  | ok a =>
    obtain ⟨r', e', he', hrun'⟩ := hf a e (he a rfl)
    refine ⟨r', e', he', fun label => ?_⟩
    rw [outcome_bind_ok (hrun label)]
    exact hrun' label

/-- A change of the context that neither looks at the text nor collects
anything. -/
structure Textless (f : Context → Context) : Prop where
  fragments : ∀ (c : Context) (text : List String),
    f { c with fragments := text } = { f c with fragments := text }
  mappings : ∀ c, (f c).mappings = c.mappings

theorem Textless.fill {f : Context → Context} (hf : Textless f) (d : Draft) (label : Labels) :
    f (d.fill label) = Draft.fill ⟨f d.ctx, d.written⟩ label :=
  hf.fragments d.ctx _

theorem Textless.numbered {f : Context → Context} (hf : Textless f) {d : Draft}
    (hd : d.Numbered) : Draft.Numbered ⟨f d.ctx, d.written⟩ := by
  unfold Draft.Numbered
  rw [hf.mappings]
  exact hd

theorem sketched_update {f : Context → Context} (hf : Textless f) :
    Sketched fun _ => update f := by
  intro d hd
  refine ⟨.ok (), ⟨f d.ctx, d.written⟩, fun _ _ => hf.numbered hd, fun label => ?_⟩
  rw [outcome_update, hf.fill]

theorem textless_id : Textless id := ⟨fun _ _ => rfl, fun _ => rfl⟩

theorem textless_pushScope : Textless Context.pushScope := ⟨fun _ _ => rfl, fun _ => rfl⟩

theorem textless_enterIteration (item index separator : Option String) :
    Textless fun ctx => ctx.enterIteration item index separator :=
  ⟨fun _ _ => rfl, fun _ => rfl⟩

theorem textless_put (name : String) (value : Value) : Textless fun ctx => ctx.put name value :=
  ⟨fun _ _ => rfl, fun _ => rfl⟩

theorem Textless.comp {f g : Context → Context} (hf : Textless f) (hg : Textless g) :
    Textless fun ctx => g (f ctx) where
  fragments c text := by rw [hf.fragments, hg.fragments]
  mappings c := by rw [hg.mappings, hf.mappings]

theorem textless_putLoopVariable (unique : Nat) (name : Option String) (value : Value) :
    Textless fun ctx => ctx.putLoopVariable unique name value := by
  cases name with
  | none => exact textless_id
  | some name => exact (textless_put _ value).comp (textless_put name value)

/-- An end of a bracket that neither looks at the text, the one before it
included, nor collects anything. -/
structure TextlessLeave (leave : Context → Context → Context) : Prop where
  fragments : ∀ (before c : Context) (text text' : List String),
    leave { before with fragments := text } { c with fragments := text' }
      = { leave before c with fragments := text' }
  mappings : ∀ before c, (leave before c).mappings = c.mappings

theorem textlessLeave_restoreMarks : TextlessLeave restoreMarks :=
  ⟨fun _ _ _ _ => rfl, fun _ _ => rfl⟩

theorem textlessLeave_popScope : TextlessLeave fun _ after => after.popScope :=
  ⟨fun _ _ _ _ => rfl, fun _ _ => rfl⟩

theorem textlessLeave_leaveIteration : TextlessLeave fun _ after => after.leaveIteration :=
  ⟨fun _ _ _ _ => rfl, fun _ _ => rfl⟩

theorem sketched_bracket {enter : Context → Context} {leave : Context → Context → Context}
    (henter : Textless enter) (hleave : TextlessLeave leave)
    {x : Labels → Render α} (hx : Sketched x) :
    Sketched fun label => bracket enter leave (x label) := by
  intro d hd
  obtain ⟨r, e, he, hrun⟩ := hx ⟨enter d.ctx, d.written⟩ (henter.numbered hd)
  refine ⟨r, ⟨leave d.ctx e.ctx, e.written⟩, fun a ha => ?_, fun label => ?_⟩
  · unfold Draft.Numbered
    rw [hleave.mappings]
    exact he a ha
  · rw [outcome_bracket, henter.fill, hrun label]
    exact congrArg (Prod.mk r) (hleave.fragments d.ctx e.ctx _ _)

/-- An expression is asked without regard to the text. -/
theorem sketched_ask (text : String) (answer : Variables → Except EvalError α)
    (blame : EvalError → RenderError) : Sketched fun _ => ask text answer blame := by
  intro d hd
  refine ⟨(answer d.ctx.vars).mapError blame, ⟨d.ctx.ask text, d.written⟩, fun _ _ => hd,
    fun label => ?_⟩
  rw [outcome_ask]
  rfl

/-- What is read of the context must not be its text. -/
theorem sketched_get {read : Context → α}
    (h : ∀ (c : Context) (text : List String), read { c with fragments := text } = read c) :
    Sketched fun _ => get >>= fun c => pure (read c) := by
  intro d hd
  refine ⟨.ok (read d.ctx), d, fun _ _ => hd, fun label => ?_⟩
  rw [outcome_get_bind, outcome_pure, Draft.fill, h]

-- ================================================================= text

section Text

variable (base : Setting)

/-- What collecting a parameter does is the same for all markers, and if it
succeeds there is one more mapping. -/
theorem collect_draft (m : Parameter.Mapping) (d : Draft) :
    ∃ (r : Except RenderError Unit) (ctx : Context),
      (∀ a, r = .ok a → ctx.mappings.length = d.ctx.mappings.length + 1)
        ∧ ∀ label, outcome (collect (base.withMarkers label.1) m) (d.fill label)
            = (r, Draft.fill ⟨ctx, d.written⟩ label) := by
  cases hc : base.collectsValues with
  | false =>
    refine ⟨.ok (), d.ctx.addMapping (Context.uniquify d.ctx.frames m), ?_, fun label => ?_⟩
    · intro _ _
      exact List.length_append
    · exact outcome_collect_plain hc
  | true =>
    cases hv : base.evaluator (Context.uniquify d.ctx.frames m).source.text d.ctx.vars with
    | error e =>
      refine ⟨_, d.ctx.ask (Context.uniquify d.ctx.frames m).source.text,
        (fun _ h => ?_), fun label => outcome_collect_error hc hv⟩
      cases h
    | ok v =>
      refine ⟨_, ((d.ctx.ask (Context.uniquify d.ctx.frames m).source.text).addValue v).addMapping
        (Context.uniquify d.ctx.frames m), ?_, fun label => outcome_collect_ok hc hv⟩
      intro _ _
      exact List.length_append

/-- An action that makes one sketch, whatever the markers are, and leaves the
places of the parameters open that it collects. -/
def SketchedText (x : Labels → Render String) : Prop :=
  ∀ d : Draft, ∃ (r : Except RenderError Sketch) (ctx : Context),
    (∀ t, r = .ok t → List.range d.ctx.mappings.length ++ t.numbers
        = List.range ctx.mappings.length)
      ∧ ∀ label, outcome (x label) (d.fill label)
          = (r.map (Sketch.fill label.1), Draft.fill ⟨ctx, d.written⟩ label)

/-- A text that is the same for all markers is a sketch of itself. -/
theorem sketchedText_of_same {x : Labels → Render String}
    (hx : ∀ d : Draft, ∃ (r : Except RenderError String) (ctx : Context),
      ctx.mappings = d.ctx.mappings
        ∧ ∀ label, outcome (x label) (d.fill label) = (r, Draft.fill ⟨ctx, d.written⟩ label)) :
    SketchedText x := by
  intro d
  obtain ⟨r, ctx, hm, hrun⟩ := hx d
  refine ⟨r.map fun s => [.text s], ctx, ?_, fun label => ?_⟩
  · intro t ht
    cases r with
    | error e => cases ht
    | ok s =>
      obtain rfl : [Ink.text s] = t := Except.ok.inj ht
      rw [hm]
      exact List.append_nil _
  · rw [hrun label]
    cases r with
    | error e => rfl
    | ok s => exact congrArg (fun u => (Except.ok u, _)) (Sketch.fill_text label.1 s).symm

theorem sketchedText_piece (p : Piece) :
    SketchedText fun label => piece (base.withMarkers label.1) p := by
  cases p with
  | literal text =>
    exact sketchedText_of_same fun d => ⟨.ok text, d.ctx, rfl, fun _ => rfl⟩
  | interpolation text =>
    refine sketchedText_of_same fun d => ?_
    cases hv : base.evaluator text d.ctx.vars with
    | error e =>
      refine ⟨.error (.expression "text" text e), d.ctx.ask text, rfl, fun label => ?_⟩
      refine outcome_bind_error ?_
      rw [value, outcome_ask]
      exact congrArg (fun a => (Except.mapError _ a, _)) hv
    | ok v =>
      have hask : ∀ label, outcome (value (base.withMarkers label.1) "text" text) (d.fill label)
          = (.ok v, Draft.fill ⟨d.ctx.ask text, d.written⟩ label) := by
        intro label
        rw [value, outcome_ask]
        exact congrArg (fun a => (Except.mapError _ a, _)) hv
      cases hf : base.filter with
      | none =>
        refine ⟨.ok v.render, d.ctx.ask text, rfl, fun label => ?_⟩
        rw [piece, outcome_bind_ok (hask label)]
        simp only [Setting.withMarkers, hf]
        rfl
      | some filter =>
        cases ha : filter.accepts v.render with
        | true =>
          refine ⟨.ok v.render, d.ctx.ask text, rfl, fun label => ?_⟩
          rw [piece, outcome_bind_ok (hask label)]
          simp only [Setting.withMarkers, hf, ha, if_true]
          rfl
        | false =>
          refine ⟨.error (.injectionRejected text filter.pattern), d.ctx.ask text, rfl,
            fun label => ?_⟩
          rw [piece, outcome_bind_ok (hask label)]
          simp only [Setting.withMarkers, hf, ha, Bool.false_eq_true, if_false]
          rfl
  | parameter m =>
    intro d
    obtain ⟨r, ctx, hcount, hrun⟩ := collect_draft base m d
    refine ⟨r.map fun _ => [.marker d.ctx.mappings.length], ctx, ?_, fun label => ?_⟩
    · intro t ht
      cases r with
      | error e => cases ht
      | ok a =>
        obtain rfl : [Ink.marker d.ctx.mappings.length] = t := Except.ok.inj ht
        rw [hcount a rfl, List.range_succ]
        rfl
    · rw [outcome_parameter, hrun label]
      cases r with
      | error e => rfl
      | ok a =>
        have hfill : Sketch.fill label.1 [.marker d.ctx.mappings.length]
            = label.1 d.ctx.mappings.length := String.append_empty
        exact congrArg (fun u => (Except.ok u, _)) hfill.symm

theorem sketchedText_pieces (ps : List Piece) :
    SketchedText fun label => pieces (base.withMarkers label.1) ps := by
  induction ps with
  | nil => exact fun d => ⟨.ok [], d.ctx, fun t ht => by
      obtain rfl : [] = t := Except.ok.inj ht
      exact List.append_nil _, fun _ => rfl⟩
  | cons p rest ih =>
    intro d
    obtain ⟨r, ctx, hnum, hrun⟩ := sketchedText_piece base p d
    cases r with
    | error e =>
      exact ⟨.error e, ctx, (fun _ h => nomatch h), fun label => outcome_bind_error (hrun label)⟩
    | ok t =>
      obtain ⟨r', ctx', hnum', hrun'⟩ := ih ⟨ctx, d.written⟩
      refine ⟨r'.map (t ++ ·), ctx', ?_, fun label => ?_⟩
      · intro u hu
        cases r' with
        | error e => cases hu
        | ok t' =>
          obtain rfl : t ++ t' = u := Except.ok.inj hu
          rw [Sketch.numbers_append, ← List.append_assoc, hnum t rfl]
          exact hnum' t' rfl
      · show outcome (piece (base.withMarkers label.1) p >>= _) (d.fill label) = _
        rw [outcome_bind_ok (hrun label)]
        cases r' with
        | error e => exact outcome_bind_error (hrun' label)
        | ok t' =>
          rw [outcome_bind_ok (hrun' label)]
          exact congrArg (fun u => (Except.ok u, _)) (Sketch.fill_append label.1 t t').symm

/-- Appending a sketch to a draft, whose places come last. -/
theorem append_draft (t : Sketch) (d : Draft) : ∃ (ctx : Context) (more : List Sketch),
    ctx.mappings = d.ctx.mappings ∧ more.flatMap Sketch.numbers = t.numbers
      ∧ ∀ label, (d.fill label).append (t.fill label.1)
          = Draft.fill ⟨ctx, d.written ++ more⟩ label := by
  have howed : ∀ owed : List String,
      (owed.map fun s => [Ink.text s]).flatMap Sketch.numbers = [] := by
    intro owed
    induction owed with
    | nil => rfl
    | cons s rest ih => exact ih
  have hfilled : ∀ (label : Labels) (owed : List String),
      (owed.map fun s => [Ink.text s]).map (Sketch.fill label.1) = owed := by
    intro label owed
    rw [List.map_map]
    exact (List.map_congr_left fun s _ => Sketch.fill_text label.1 s).trans (List.map_id owed)
  cases hb : t.isBlank with
  | true =>
    cases hv : t.isVoid with
    | true =>
      refine ⟨d.ctx, [], rfl, (Sketch.numbers_of_isVoid hv).symm, fun label => ?_⟩
      unfold Context.append
      rw [Sketch.allBlank_fill, Sketch.isEmpty_fill, hb, hv, List.append_nil]
      rfl
    | false =>
      refine ⟨d.ctx, [t], rfl, List.append_nil _, fun label => ?_⟩
      unfold Context.append
      rw [Sketch.allBlank_fill, Sketch.isEmpty_fill, hb, hv]
      simp only [if_true, Bool.false_eq_true, if_false, Draft.fill, List.map_append]
      rfl
  | false =>
    have hv : t.isVoid = false := by
      cases hv : t.isVoid with
      | false => rfl
      | true => rw [Sketch.isBlank_of_isVoid hv] at hb; cases hb
    refine ⟨{ d.ctx with frames := Context.settle d.ctx.frames },
      (d.ctx.owedSeparators.map fun s => [Ink.text s]) ++ [t], rfl, ?_, fun label => ?_⟩
    · rw [List.flatMap_append, howed]
      exact List.append_nil _
    · unfold Context.append
      rw [Sketch.allBlank_fill, Sketch.isEmpty_fill, hb, hv]
      simp only [Bool.false_eq_true, if_false, Draft.fill, List.map_append, hfilled,
        ← List.append_assoc]
      rfl

/-- Whatever is written keeps a draft numbered. -/
theorem sketched_write (ps : List Piece) :
    Sketched fun label => write (base.withMarkers label.1) ps := by
  intro d hd
  obtain ⟨r, ctx, hnum, hrun⟩ := sketchedText_pieces base ps d
  cases r with
  | error e =>
    exact ⟨.error e, ⟨ctx, d.written⟩, (fun _ h => nomatch h),
      fun label => outcome_bind_error (hrun label)⟩
  | ok t =>
    obtain ⟨ctx', more, hmappings, hmore, happend⟩ := append_draft t ⟨ctx, d.written⟩
    refine ⟨.ok (), ⟨ctx', d.written ++ more⟩, fun _ _ => ?_, fun label => ?_⟩
    · show (d.written ++ more).flatMap Sketch.numbers = List.range ctx'.mappings.length
      rw [List.flatMap_append, hmore, hmappings, ← hnum t rfl]
      exact congrArg (· ++ t.numbers) hd
    · show outcome (pieces (base.withMarkers label.1) ps >>= append) (d.fill label) = _
      rw [outcome_bind_ok (hrun label)]
      exact congrArg (Prod.mk _) (happend label)

end Text

-- ================================================================ nodes

theorem sketched_append (text : String) : Sketched fun _ => append text := by
  intro d hd
  obtain ⟨ctx, more, hmappings, hmore, happend⟩ := append_draft [.text text] d
  refine ⟨.ok (), ⟨ctx, d.written ++ more⟩, fun _ _ => ?_, fun label => ?_⟩
  · show (d.written ++ more).flatMap Sketch.numbers = List.range ctx.mappings.length
    rw [List.flatMap_append, hmore, hmappings]
    exact (List.append_nil _).trans hd
  · rw [← Sketch.fill_text label.1 text]
    exact congrArg (Prod.mk _) (happend label)

theorem sketched_iteration {x : Labels → Render Unit} (hx : Sketched x)
    (head : Template.LoopHead) (separator : Option String) (key item : Value) :
    Sketched fun label => iteration head separator key item (x label) := by
  have hvars : ∀ unique, Textless fun ctx =>
      (ctx.putLoopVariable unique head.index key).putLoopVariable unique head.item item :=
    fun unique => (textless_putLoopVariable unique head.index key).comp
      (textless_putLoopVariable unique head.item item)
  exact sketched_bracket (textless_enterIteration ..) textlessLeave_leaveIteration
    (sketched_bind (sketched_update ⟨fun c text => (hvars (c.iterations - 1)).fragments c text,
      fun c => (hvars (c.iterations - 1)).mappings c⟩) fun _ =>
        sketched_bind hx fun _ => sketched_get fun _ _ => rfl)

/-- All nodes leave the places of the parameters open that they collect, each
in its turn. -/
theorem sketched (base : Setting) :
    Compositional (fun label => base.withMarkers label.1) (fun _ => True)
      fun _ _ x => Sketched x where
  pure := sketched_pure
  bind := sketched_bind
  weaken hx := hx
  marks := sketched_get fun _ _ => rfl
  mark _ := sketched_update ⟨fun _ _ => rfl, fun _ => rfl⟩
  choice hx := sketched_bracket textless_id textlessLeave_restoreMarks hx
  scope hx := sketched_bracket textless_pushScope textlessLeave_popScope hx
  append := sketched_append
  write ps _ := sketched_write base ps
  bindVariable b _ :=
    sketched_bind (sketched_ask b.value _ _) fun v =>
      sketched_update (textless_put b.name v)
  test tag text _ :=
    sketched_ask text (base.evaluator.condition text) (.expression tag text)
  elements head _ :=
    sketched_bind
      (sketched_ask head.collection
        (base.evaluator.collection (head.nullable.getD base.foreachNullable) head.collection)
        (blameCollection head.collection))
      fun found => sketched_pure (found.getD [])
  iterations head found _ hx :=
    iterations_of_iteration (fun _ x => Sketched x) (sketched_pure ()) sketched_bind
      (fun separator key item => sketched_iteration hx head separator key item) found false 0

/-- A render that succeeds with some markers succeeds with all of them. Its
text is put together from texts that do not depend on the markers, with the
markers between them, one for each parameter and in the order of the
parameters. -/
theorem weave_of_apply (base : Setting) (node : Template.Node) {c d : Context}
    (hc : c.fragments = []) (hm : c.mappings = []) (first : Labels) {handled : Bool}
    (hrun : outcome (node.apply (base.withMarkers first.1)) c = (.ok handled, d)) :
    ∃ cs : List String, cs.length = d.mappings.length + 1 ∧ ∀ label : Labels, ∃ d' : Context,
      outcome (node.apply (base.withMarkers label.1)) c = (.ok handled, d')
        ∧ d'.mappings = d.mappings ∧ d'.values = d.values ∧ d'.sql = weave label.1 0 cs := by
  have hstart : ∀ label, Draft.fill ⟨c, []⟩ label = c := by
    intro label
    show { c with fragments := [] } = c
    rw [← hc]
  have hnumbered : Draft.Numbered ⟨c, []⟩ := by
    show [] = List.range c.mappings.length
    rw [hm]
    rfl
  obtain ⟨r, e, he, hall⟩ :=
    (sketched base).node [] node (fun _ _ => trivial) ⟨c, []⟩ hnumbered
  simp only [hstart] at hall
  have hfirst := hrun.symm.trans (hall first)
  rw [Prod.mk.injEq] at hfirst
  obtain ⟨rfl, rfl⟩ := hfirst
  have hnum : (Sketch.join " " e.written).numbers = List.range' 0 e.ctx.mappings.length := by
    rw [Sketch.numbers_join, ← List.range_eq_range']
    exact he handled rfl
  refine ⟨(Sketch.join " " e.written).texts, ?_, fun label => ⟨_, hall label, rfl, rfl, ?_⟩⟩
  · rw [Sketch.length_texts, hnum, List.length_range']
    rfl
  · rw [← Sketch.fill_eq_weave label.1 0 _ _ hnum, Sketch.fill_join]
    rfl

end Render

end DynamicSql
