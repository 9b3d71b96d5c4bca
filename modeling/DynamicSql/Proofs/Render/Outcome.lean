/-
What an action does to a context: its result, and the context it leaves.

A render is a function from contexts, but it is written with binds and
brackets, so every proof about it begins by following them. The equations
here do that once: one for each way in which actions are put together.
-/
import DynamicSql.Render.Apply

namespace DynamicSql

namespace Context

/-- The context with an expression noted as asked. -/
def ask (ctx : Context) (text : String) : Context := { ctx with asked := ctx.asked ++ [text] }

/-- The context with the value of a parameter collected. -/
def addValue (ctx : Context) (value : Value) : Context :=
  { ctx with values := ctx.values ++ [value] }

/-- The context with the mapping of a parameter collected. -/
def addMapping (ctx : Context) (mapping : Parameter.Mapping) : Context :=
  { ctx with mappings := ctx.mappings ++ [mapping] }

/-- The context with a case marked as taken. -/
def mark (ctx : Context) (breaks : Bool) : Context :=
  { ctx with matched := true, broke := breaks }

@[simp] theorem mappings_append (ctx : Context) (text : String) :
    (ctx.append text).mappings = ctx.mappings := by
  unfold append
  cases Text.allBlank text <;> cases text.isEmpty <;> rfl

@[simp] theorem values_append (ctx : Context) (text : String) :
    (ctx.append text).values = ctx.values := by
  unfold append
  cases Text.allBlank text <;> cases text.isEmpty <;> rfl

end Context

namespace Render

variable {α β : Type}

/-- The result of an action begun in a context, and the context after it. -/
def outcome (x : Render α) (c : Context) : Except RenderError α × Context := x.run c

@[simp] theorem outcome_pure (a : α) (c : Context) :
    outcome (pure a) c = (.ok a, c) := rfl

@[simp] theorem outcome_update (f : Context → Context) (c : Context) :
    outcome (update f) c = (.ok (), f c) := rfl

/-- The context after an action that binds is that of its second part, unless
the first one failed. -/
theorem outcome_bind (x : Render α) (f : α → Render β) (c : Context) :
    outcome (x >>= f) c =
      match outcome x c with
      | (.ok a, d) => outcome (f a) d
      | (.error e, d) => (.error e, d) := by
  show (ExceptT.bind x f) c = _
  simp only [ExceptT.bind, ExceptT.mk, bind, StateT.bind, outcome, ExceptT.run]
  rcases x c with ⟨e | a, d⟩ <;> rfl

theorem outcome_bind_ok {x : Render α} {f : α → Render β} {a : α} {c d : Context}
    (h : outcome x c = (.ok a, d)) : outcome (x >>= f) c = outcome (f a) d := by
  rw [outcome_bind, h]

theorem outcome_bind_error {x : Render α} {f : α → Render β} {e : RenderError}
    {c d : Context} (h : outcome x c = (.error e, d)) :
    outcome (x >>= f) c = (.error e, d) := by
  rw [outcome_bind, h]

theorem outcome_get_bind (f : Context → Render β) (c : Context) :
    outcome (get >>= f) c = outcome (f c) c := rfl

theorem outcome_bracket (enter : Context → Context) (leave : Context → Context → Context)
    (x : Render α) (c : Context) :
    outcome (bracket enter leave x) c
      = ((outcome x (enter c)).1, leave c (outcome x (enter c)).2) := rfl

/-- An expression is noted as asked, and then the evaluator decides. -/
theorem outcome_ask (text : String) (answer : Variables → Except EvalError α)
    (blame : EvalError → RenderError) (c : Context) :
    outcome (ask text answer blame) c
      = ((answer c.vars).mapError blame, c.ask text) := by
  rw [ask, outcome_bind, outcome_update]
  simp only []
  rw [outcome_get_bind]
  cases hr : answer c.vars with
  | error e =>
    have hread : answer { c with asked := c.asked ++ [text] }.vars = .error e := hr
    rw [hread]
    rfl
  | ok a =>
    have hread : answer { c with asked := c.asked ++ [text] }.vars = .ok a := hr
    rw [hread]
    rfl

-- ===================================================== parts of nodes

/-- What a binding does. -/
def bindVariable (s : Setting) (b : Template.Bind) : Render Unit := do
  let v ← value s "bind" b.value
  update fun ctx => ctx.put b.name v

/-- What a text with placeholders does. -/
def write (s : Setting) (ps : List Template.Piece) : Render Unit := do
  let text ← pieces s ps
  append text

theorem apply_placeholders (s : Setting) (t : Template.PlaceholderText) :
    (Template.Node.placeholders t).apply s = handledBy (write s t.pieces) :=
  (bind_assoc ..).symm

theorem apply_bind (s : Setting) (b : Template.Bind) :
    (Template.Node.bind b).apply s = bindVariable s b >>= fun _ => pure false :=
  (bind_assoc ..).symm

-- ======================================================== parameters

section Collect

variable {s : Setting} {m : Parameter.Mapping} {c : Context}

/-- Without values, a mapping is all that is collected. -/
theorem outcome_collect_plain (h : s.collectsValues = false) :
    outcome (collect s m) c = (.ok (), c.addMapping (Context.uniquify c.frames m)) := by
  rw [collect, outcome_get_bind, h]
  rfl

/-- With values, the mapping comes last, when nothing can fail any more. -/
theorem outcome_collect_ok {v : Value} (h : s.collectsValues = true)
    (hv : s.evaluator (Context.uniquify c.frames m).source.text c.vars = .ok v) :
    outcome (collect s m) c
      = (.ok (), ((c.ask (Context.uniquify c.frames m).source.text).addValue v).addMapping
          (Context.uniquify c.frames m)) := by
  rw [collect, outcome_get_bind, h]
  simp only [if_true]
  rw [outcome_bind, outcome_ask, hv]
  rfl

/-- A failure is told of the expression in the template, not of the renamed
one. -/
theorem outcome_collect_error {e : EvalError} (h : s.collectsValues = true)
    (he : s.evaluator (Context.uniquify c.frames m).source.text c.vars = .error e) :
    outcome (collect s m) c
      = (.error (.expression "text" m.source.text e),
        c.ask (Context.uniquify c.frames m).source.text) := by
  rw [collect, outcome_get_bind, h]
  simp only [if_true]
  rw [outcome_bind, outcome_ask, he]
  rfl

end Collect

/-- The text of a parameter is the marker of its number. -/
theorem outcome_parameter (s : Setting) (m : Parameter.Mapping) (c : Context) :
    outcome (piece s (.parameter m)) c
      = ((outcome (collect s m) c).1.map fun _ => s.marker c.mappings.length,
        (outcome (collect s m) c).2) := by
  rw [piece, outcome_get_bind, outcome_bind]
  rcases outcome (collect s m) c with ⟨_ | _, d⟩ <;> rfl

end Render

end DynamicSql
