/-
Scopes that a render could as well have entered.

A body that binds nothing is run in the scope that is there, although every
body could be given a scope of its own. Here two renders are run side by side,
of which one enters such scopes and the other does not, and they are shown to
do the same.

# The relation

The scopes in sight are the same on both sides, save that on one side there
are empty ones in between (`Bindings.Padded`), which hide nothing. Where they
are is told by a shape, a flag for each scope that was entered since the
beginning. Below these the two sides may differ in whatever way they like, as
long as they bind the same names to the same values.

All else is the same, except for what had been asked before the beginning
(`Context.Padded`). So a render can also be compared with one that begins when
another has already done something.

# Who may bind

A variable is bound in the innermost scope. If that one is only there on one
side, then the variable is lost on this side when the scope is left, and stays
on the other one. So an action that may bind a variable is run at certain
shapes only, and one that binds none at all of them (`Indifferent`). An action
that has a scope of its own on both sides binds nothing as seen from outside.
-/
import DynamicSql.Proofs.Render.Blind
import DynamicSql.Proofs.Template.Scoped

namespace DynamicSql

-- ============================================================== scopes

namespace Bindings

/-- What a name is bound to in the innermost of several scopes that bind
it. -/
def seen (layers : List (Bindings Value)) (name : String) : Option Value :=
  layers.findSome? fun vars => find? vars name

theorem seen_cons (vars : Bindings Value) (rest : List (Bindings Value)) (name : String) :
    seen (vars :: rest) name = (find? vars name).or (seen rest name) := by
  unfold seen
  rw [List.findSome?_cons]
  cases find? vars name <;> rfl

theorem seen_insert (vars : Bindings Value) (rest : List (Bindings Value)) (name : String)
    (value : Value) (other : String) :
    seen (vars.insert name value :: rest) other
      = if name = other then some value else seen (vars :: rest) other := by
  rw [seen_cons, seen_cons, find?_insert]
  split <;> rfl

/-- Scopes of two sides from the innermost one outward. A flag stands for each
scope that was entered, and is set if that was done on the second side
alone. -/
inductive Padded : List Bool → List (Bindings Value) → List (Bindings Value) → Prop
  | bottom {layers layers' : List (Bindings Value)} (left : layers ≠ []) (right : layers' ≠ [])
    (same : ∀ name, seen layers name = seen layers' name) : Padded [] layers layers'
  | both {shape : List Bool} {layers layers' : List (Bindings Value)} (vars : Bindings Value)
    (h : Padded shape layers layers') : Padded (false :: shape) (vars :: layers) (vars :: layers')
  | extra {shape : List Bool} {layers layers' : List (Bindings Value)}
    (h : Padded shape layers layers') : Padded (true :: shape) layers ([] :: layers')

namespace Padded

variable {shape : List Bool} {layers layers' : List (Bindings Value)}

theorem ne_nil (h : Padded shape layers layers') : layers ≠ [] ∧ layers' ≠ [] := by
  induction h with
  | bottom left right _ => exact ⟨left, right⟩
  | both vars _ _ => exact ⟨List.cons_ne_nil _ _, List.cons_ne_nil _ _⟩
  | extra _ ih => exact ⟨ih.1, List.cons_ne_nil _ _⟩

/-- Empty scopes hide nothing. -/
theorem seen_eq (h : Padded shape layers layers') (name : String) :
    seen layers name = seen layers' name := by
  induction h with
  | bottom _ _ same => exact same name
  | both vars _ ih =>
    rw [seen_cons, seen_cons, ih]
  | extra _ ih => exact ih

/-- A variable may be bound on both sides if the innermost scope is there on
both. -/
theorem insert {vars vars' : Bindings Value} (hshape : shape.head? ≠ some true)
    (h : Padded shape (vars :: layers) (vars' :: layers')) (name : String) (value : Value) :
    Padded shape (vars.insert name value :: layers) (vars'.insert name value :: layers') := by
  cases h with
  | bottom _ _ same =>
    refine .bottom (List.cons_ne_nil _ _) (List.cons_ne_nil _ _) fun other => ?_
    rw [seen_insert, seen_insert, same other]
  | both _ h => exact .both _ h
  | extra _ => exact absurd rfl hshape

end Padded

end Bindings

namespace Context

open Bindings (Padded)

-- ============================================================ contexts

/-- The context as it would be if some expressions had been asked before. -/
def askedAfter (before : List String) (ctx : Context) : Context :=
  { ctx with asked := before ++ ctx.asked }

/-- A change that leaves scopes and loops as they are, and looks neither at
the scopes nor at what has been asked. -/
structure Unaware (f : Context → Context) : Prop extends Aside f where
  askedAfter : ∀ before x, f (x.askedAfter before) = (f x).askedAfter before

theorem unaware_ask (text : String) : Unaware fun x => x.ask text where
  toAside := aside_ask text
  askedAfter before x := by
    show { x with asked := before ++ x.asked ++ [text] }
      = { x with asked := before ++ (x.asked ++ [text]) }
    rw [List.append_assoc]

theorem unaware_addValue (value : Value) : Unaware fun x => x.addValue value where
  toAside := aside_addValue value
  askedAfter _ _ := rfl

theorem unaware_addMapping (m : Parameter.Mapping) : Unaware fun x => x.addMapping m where
  toAside := aside_addMapping m
  askedAfter _ _ := rfl

theorem unaware_mark (breaks : Bool) : Unaware fun x => x.mark breaks where
  toAside := aside_mark breaks
  askedAfter _ _ := rfl

theorem unaware_append (text : String) : Unaware fun x => x.append text where
  toAside := aside_append text
  askedAfter before x := by
    unfold append Context.askedAfter
    cases Text.allBlank text <;> cases text.isEmpty <;> rfl

/-- The second context has scopes more, as the shape says, and the first one
has asked more before. -/
structure Padded (before : List String) (shape : List Bool) (c d : Context) : Prop where
  bare : c.bare = (d.askedAfter before).bare
  scopes : ∃ layers layers', c.Layered layers ∧ d.Layered layers'
    ∧ Bindings.Padded shape layers layers'

namespace Padded

variable {before : List String} {shape : List Bool} {c d : Context}

theorem frames_eq (h : Padded before shape c d) : c.frames = d.frames :=
  (congrArg Context.frames h.bare : c.bare.frames = (d.askedAfter before).bare.frames)

theorem mappings_eq (h : Padded before shape c d) : c.mappings = d.mappings :=
  (congrArg Context.mappings h.bare : c.bare.mappings = (d.askedAfter before).bare.mappings)

theorem iterations_eq (h : Padded before shape c d) : c.iterations = d.iterations :=
  (congrArg Context.iterations h.bare : c.bare.iterations = (d.askedAfter before).bare.iterations)

theorem marks_eq (h : Padded before shape c d) : (c.matched, c.broke) = (d.matched, d.broke) := by
  show (c.bare.matched, c.bare.broke)
    = ((d.askedAfter before).bare.matched, (d.askedAfter before).bare.broke)
  rw [h.bare]

theorem hasApplied_eq (h : Padded before shape c d) : c.hasApplied = d.hasApplied := by
  rw [hasApplied, hasApplied, h.frames_eq]

theorem vars_eq (h : Padded before shape c d) : c.vars = d.vars := by
  obtain ⟨layers, layers', hc, hd, hpadded⟩ := h.scopes
  funext name
  rw [hc.vars_eq, hd.vars_eq]
  exact hpadded.seen_eq name

-- ============================================================= changes

theorem update (h : Padded before shape c d) {f : Context → Context} (hf : Unaware f) :
    Padded before shape (f c) (f d) where
  bare := by rw [hf.bare, h.bare, ← hf.bare, hf.askedAfter]
  scopes := by
    obtain ⟨layers, layers', hc, hd, hpadded⟩ := h.scopes
    exact ⟨layers, layers', hc.of_eq (hf.scopes c) (hf.current c),
      hd.of_eq (hf.scopes d) (hf.current d), hpadded⟩

theorem restoreMarks {b b' : Context} (hb : Padded before shape b b')
    (h : Padded before shape c d) :
    Padded before shape (Render.restoreMarks b c) (Render.restoreMarks b' d) where
  bare := by
    show Render.restoreMarks b.bare c.bare
      = Render.restoreMarks (b'.askedAfter before).bare (d.askedAfter before).bare
    rw [hb.bare, h.bare]
  scopes := h.scopes

theorem put (h : Padded before shape c d) (hshape : shape.head? ≠ some true) (name : String)
    (value : Value) : Padded before shape (c.put name value) (d.put name value) where
  bare := h.bare
  scopes := by
    obtain ⟨layers, layers', hc, hd, hpadded⟩ := h.scopes
    obtain ⟨hne, hne'⟩ := hpadded.ne_nil
    obtain ⟨vars, rest, rfl⟩ := List.exists_cons_of_ne_nil hne
    obtain ⟨vars', rest', rfl⟩ := List.exists_cons_of_ne_nil hne'
    exact ⟨_, _, hc.put name value, hd.put name value, hpadded.insert hshape name value⟩

theorem pushScope (h : Padded before shape c d) :
    Padded before (false :: shape) c.pushScope d.pushScope where
  bare := h.bare
  scopes := by
    obtain ⟨layers, layers', hc, hd, hpadded⟩ := h.scopes
    exact ⟨_, _, hc.pushScope, hd.pushScope, hpadded.both []⟩

theorem popScope (h : Padded before (false :: shape) c d) :
    Padded before shape c.popScope d.popScope where
  bare := h.bare
  scopes := by
    obtain ⟨layers, layers', hc, hd, hpadded⟩ := h.scopes
    cases hpadded with
    | both vars hpadded =>
      obtain ⟨hne, hne'⟩ := hpadded.ne_nil
      obtain ⟨outer, rest, rfl⟩ := List.exists_cons_of_ne_nil hne
      obtain ⟨outer', rest', rfl⟩ := List.exists_cons_of_ne_nil hne'
      exact ⟨_, _, hc.popScope, hd.popScope, hpadded⟩

/-- A scope is entered on the second side alone. -/
theorem pushExtra (h : Padded before shape c d) :
    Padded before (true :: shape) c d.pushScope where
  bare := h.bare
  scopes := by
    obtain ⟨layers, layers', hc, hd, hpadded⟩ := h.scopes
    exact ⟨_, _, hc, hd.pushScope, hpadded.extra⟩

theorem popExtra (h : Padded before (true :: shape) c d) : Padded before shape c d.popScope where
  bare := h.bare
  scopes := by
    obtain ⟨layers, layers', hc, hd, hpadded⟩ := h.scopes
    cases hpadded with
    | extra hpadded =>
      obtain ⟨outer', rest', rfl⟩ := List.exists_cons_of_ne_nil hpadded.ne_nil.2
      exact ⟨_, _, hc, hd.popScope, hpadded⟩

end Padded

end Context

namespace Render

open Context (Padded)
open Template (Part Piece LoopHead Node Body Branch Case)

variable {α β : Type} {before : List String} {shape : List Bool} {c d : Context}

/-- Every context goes with itself. -/
theorem padded_refl {stack : ScopeStack} (h : c.Stacked stack) : Padded [] [] c c where
  bare := rfl
  scopes := by
    have hne : stack.map Prod.snd ≠ [] := by
      intro hnil
      obtain rfl := List.map_eq_nil_iff.mp hnil
      cases h.2
    exact ⟨_, _, ⟨stack, h, rfl⟩, ⟨stack, h, rfl⟩, .bottom hne hne fun _ => rfl⟩

-- =============================================================== loops

theorem askedAfter_enterElement (c : Context) (head : LoopHead) (separator : Option String)
    (key item : Value) :
    (enterElement (c.askedAfter before) head separator key item).bare
      = ((enterElement c head separator key item).askedAfter before).bare := by
  unfold enterElement Context.putLoopVariable
  cases head.index <;> cases head.item <;> rfl

theorem padded_enterElement (h : Padded before shape c d) (head : LoopHead)
    (separator : Option String) (key item : Value) :
    Padded before (false :: shape) (enterElement c head separator key item)
      (enterElement d head separator key item) where
  bare := by
    rw [bare_enterElement, h.bare, ← bare_enterElement, askedAfter_enterElement]
  scopes := by
    obtain ⟨layers, layers', hc, hd, hpadded⟩ := h.scopes
    have hd' := layered_enterElement hd head separator key item
    rw [← h.iterations_eq] at hd'
    exact ⟨_, _, layered_enterElement hc head separator key item, hd', hpadded.both _⟩

theorem padded_leaveIteration (h : Padded before (false :: shape) c d) :
    Padded before shape c.leaveIteration d.leaveIteration := by
  have hframes : Padded before (false :: shape) { c with frames := c.frames.tail }
      { d with frames := d.frames.tail } := by
    refine ⟨?_, h.scopes⟩
    show { c.bare with frames := c.bare.frames.tail }
      = { (d.askedAfter before).bare with frames := (d.askedAfter before).bare.frames.tail }
    rw [h.bare]
  exact hframes.popScope

-- ============================================================= actions

/-- The actions do the same, wherever scopes are missing on the side of the
first one. If they bind variables, the innermost scope is there on both. -/
def Indifferent (before : List String) (binds : Bool) (x y : Render α) : Prop :=
  ∀ shape : List Bool, (binds = true → shape.head? ≠ some true) →
    InStep (Padded before shape) x y

namespace Indifferent

variable {binds : Bool}

/-- It does no harm to assume that variables are bound. -/
theorem mono {x y : Render α} {binds' : Bool} (h : Indifferent before binds x y)
    (hbinds : binds = true → binds' = true) : Indifferent before binds' x y :=
  fun shape hshape => h shape fun hb => hshape (hbinds hb)

theorem pure (a : α) : Indifferent before binds (pure a) (pure a) :=
  fun _ _ => inStep_pure a

theorem bind {x y : Render α} {f g : α → Render β} (hx : Indifferent before binds x y)
    (hf : ∀ a, Indifferent before binds (f a) (g a)) :
    Indifferent before binds (x >>= f) (y >>= g) :=
  fun shape hshape => inStep_bind (hx shape hshape) fun a => hf a shape hshape

theorem update {f : Context → Context} (hf : Context.Unaware f) :
    Indifferent before binds (update f) (update f) :=
  fun _ _ => inStep_update fun h => h.update hf

/-- The evaluator sees the same variables on both sides. -/
theorem ask (text : String) (answer : Variables → Except EvalError α)
    (blame : EvalError → RenderError) :
    Indifferent before binds (ask text answer blame) (ask text answer blame) :=
  fun _ _ => inStep_ask (fun h => h.update (Context.unaware_ask text))
    fun h => congrArg answer h.vars_eq

theorem value (s : Setting) (tag text : String) :
    Indifferent before binds (value s tag text) (value s tag text) :=
  ask _ _ _

-- ================================================================ text

theorem collect (s : Setting) (m : Parameter.Mapping) :
    Indifferent before binds (collect s m) (collect s m) := by
  intro shape hshape
  refine inStep_get fun {c d} h => ?_
  have hmapping : Indifferent before binds
      (Render.update fun ctx => ctx.addMapping (Context.uniquify d.frames m))
      (Render.update fun ctx => ctx.addMapping (Context.uniquify d.frames m)) :=
    update (Context.unaware_addMapping _)
  rw [h.frames_eq]
  cases s.collectsValues with
  | false => exact hmapping shape hshape h
  | true =>
    exact (ask _ _ _).bind (fun v => (update (Context.unaware_addValue v)).bind fun _ => hmapping)
      shape hshape h

theorem piece (s : Setting) (p : Piece) :
    Indifferent before binds (piece s p) (piece s p) := by
  cases p with
  | literal text => exact pure text
  | interpolation text =>
    refine (value s "text" text).bind fun v => ?_
    cases s.filter with
    | none => exact pure v.render
    | some filter =>
      cases hf : filter.accepts v.render with
      | true =>
        simp only [hf, if_true]
        exact pure v.render
      | false =>
        simp only [hf, Bool.false_eq_true, if_false]
        exact fun _ _ _ _ h => ⟨rfl, h⟩
  | parameter m =>
    intro shape hshape
    refine inStep_get fun {c d} h => ?_
    rw [h.mappings_eq]
    exact (collect s m).bind (fun _ => pure _) shape hshape h

theorem pieces (s : Setting) (ps : List Piece) :
    Indifferent before binds (pieces s ps) (pieces s ps) := by
  induction ps with
  | nil => exact pure ""
  | cons p rest ih => exact (piece s p).bind fun text => ih.bind fun others => pure _

theorem write (s : Setting) (ps : List Piece) :
    Indifferent before binds (write s ps) (write s ps) :=
  (pieces s ps).bind fun text => update (Context.unaware_append text)

-- ============================================================== scopes

/-- What is bound in a scope of its own is not bound outside. -/
theorem inScope {x y : Render Unit} (h : Indifferent before binds x y) :
    Indifferent before false (inScope true x) (inScope true y) := by
  intro shape _ c d hR
  have hhead : (false :: shape).head? ≠ some true := by simp
  obtain ⟨hresult, hafter⟩ := h (false :: shape) (fun _ => hhead) hR.pushScope
  exact ⟨hresult, hafter.popScope⟩

/-- An action that binds nothing may be given a scope. -/
theorem inExtraScope {x y : Render Unit} (h : Indifferent before false x y) :
    Indifferent before false x (Render.inScope true y) := by
  intro shape _ c d hR
  obtain ⟨hresult, hafter⟩ := h (true :: shape) nofun hR.pushExtra
  exact ⟨hresult, hafter.popExtra⟩

/-- The same is so of what is bound in an iteration. -/
theorem iteration {x y : Render Unit} (h : Indifferent before binds x y) {head : LoopHead}
    (separator : Option String) (key item : Value) :
    Indifferent before false (iteration head separator key item x)
      (iteration head separator key item y) := by
  intro shape _ c d hR
  have hhead : (false :: shape).head? ≠ some true := by simp
  have hinside : InStep (Padded before (false :: shape))
      (x >>= fun _ => get >>= fun ctx : Context => Pure.pure ctx.hasApplied)
      (y >>= fun _ => get >>= fun ctx : Context => Pure.pure ctx.hasApplied) :=
    inStep_bind (h _ fun _ => hhead) fun _ =>
      inStep_get fun hR => ⟨congrArg Except.ok hR.hasApplied_eq, hR⟩
  obtain ⟨hresult, hafter⟩ := hinside (padded_enterElement hR head separator key item)
  exact ⟨hresult, padded_leaveIteration hafter⟩

theorem iterations {x y : Render Unit} (h : Indifferent before binds x y) {head : LoopHead}
    (found : List Element) (wrote : Bool) (position : Nat) :
    Indifferent before false (iterations head x wrote position found)
      (iterations head y wrote position found) := by
  induction found generalizing wrote position with
  | nil => exact pure ()
  | cons e rest ih =>
    exact (h.iteration _ _ _).bind fun applied => ih (wrote || applied) (position + 1)

theorem appendOption (text : Option String) :
    Indifferent before binds (appendOption text) (appendOption text) := by
  cases text with
  | none => exact pure ()
  | some text => exact update (Context.unaware_append text)

theorem loop (s : Setting) {x y : Render Unit} (h : Indifferent before binds x y)
    (head : LoopHead) : Indifferent before false (loop s head x) (loop s head y) := by
  refine ((ask _ _ _).bind fun found => pure _).bind fun found => ?_
  cases found with
  | nil => exact pure ()
  | cons e rest =>
    exact (appendOption head.opening).bind fun _ =>
      (h.iterations (e :: rest) false 0).bind fun _ => appendOption head.closing

-- ============================================================ branches

theorem handledBy {x y : Render Unit} (h : Indifferent before binds x y) :
    Indifferent before binds (handledBy x) (handledBy y) :=
  h.bind fun _ => pure true

theorem branch (s : Setting) (tag test : String) {x y : Render Unit} {x' y' : Render Bool}
    (h : Indifferent before binds x y) (hnext : Indifferent before binds x' y') :
    Indifferent before binds (branch s tag test x x') (branch s tag test y y') := by
  refine (ask _ _ _).bind fun taken => ?_
  cases taken with
  | true => exact h.handledBy
  | false => exact hnext

theorem case (s : Setting) (test : String) (breaks : Bool) {x y : Render Unit}
    (h : Indifferent before binds x y) :
    Indifferent before binds (case s test breaks x) (case s test breaks y) := by
  intro shape hshape
  refine inStep_get fun {c d} hR => ?_
  obtain ⟨hmatched, hbroke⟩ := Prod.mk.inj hR.marks_eq
  rw [hmatched, hbroke]
  cases d.matched && !d.broke with
  | true => exact h.handledBy shape hshape hR
  | false =>
    refine (ask _ _ _).bind (fun taken => ?_) shape hshape hR
    cases taken with
    | true => exact h.bind fun _ => (update (Context.unaware_mark breaks)).bind fun _ => pure true
    | false => exact pure false

theorem andThenCases {x y x' y' : Render Bool} (h : Indifferent before binds x y)
    (hrest : Indifferent before binds x' y') :
    Indifferent before binds (andThenCases x x') (andThenCases y y') := by
  refine h.bind fun handled shape hshape => inStep_get fun {c d} hR => ?_
  obtain ⟨hmatched, hbroke⟩ := Prod.mk.inj hR.marks_eq
  rw [hmatched, hbroke]
  cases d.matched && d.broke with
  | true => exact ⟨rfl, hR⟩
  | false => exact hrest.bind (fun later => pure _) shape hshape hR

theorem choice {cases cases' : Render Bool} {last last' : Option (Render Unit)}
    (h : Indifferent before binds cases cases')
    (hlast : Option.Rel (Indifferent before binds) last last') :
    Indifferent before binds (choice cases last) (choice cases' last') := by
  intro shape hshape
  refine inStep_bracket id (fun hb ha => hb.restoreMarks ha) ?_
  refine inStep_bind (h shape hshape) fun handled => inStep_get fun {c d} hR => ?_
  rw [(Prod.mk.inj hR.marks_eq).1]
  cases d.matched with
  | true => exact ⟨rfl, hR⟩
  | false =>
    cases hlast with
    | none => exact ⟨rfl, hR⟩
    | some hbody => exact hbody.handledBy shape hshape hR

-- =============================================================== nodes

/-- Whether the branches of a node have scopes is decided by whether they bind
variables. -/
abbrev Decides (n : Node) : Prop := ∀ b ∈ n.bodies, b.ownScope = b.containsBind

mutual

/-- A node does the same with a scope for every branch, and so does every
part of it. -/
theorem node (s : Setting) : (n : Node) → (∀ m ∈ n.within, Decides m) →
    Indifferent before n.containsBind (n.apply s) (n.scopedEverywhere.apply s)
  | .text content, _ => (update (Context.unaware_append content)).handledBy
  | .placeholders t, _ => by
    show Indifferent _ _ ((Node.placeholders t).apply s) ((Node.placeholders t).apply s)
    rw [apply_placeholders]
    exact (write s t.pieces).handledBy
  | .bind b, _ =>
    (value s "bind" b.value).bind fun v =>
      bind (fun shape hshape => inStep_update fun h => h.put (hshape rfl) b.name v)
        fun _ => pure false
  | .conditional first others none, h => by
    obtain ⟨hown, howns⟩ := List.forall_mem_cons.mp (h _ (Node.mem_within_self _))
    have hothers := branches s others
      (fun b hb => howns _ (List.mem_append_left _ (List.mem_map_of_mem hb)))
      (fun m hm =>
        h m (List.mem_cons_of_mem _ (List.mem_append_right _ (List.mem_append_left _ hm))))
      (pure false)
    have hfirst := branch_ s first hown
      (fun m hm => h m (List.mem_cons_of_mem _ (List.mem_append_left _ hm))) hothers
    exact hfirst.mono nofun
  | .conditional first others (some body), h => by
    obtain ⟨hown, howns⟩ := List.forall_mem_cons.mp (h _ (Node.mem_within_self _))
    have hlast := body_ s body (howns _ (List.mem_append_right _ (List.mem_cons_self ..)))
      fun m hm =>
        h m (List.mem_cons_of_mem _ (List.mem_append_right _ (List.mem_append_right _ hm)))
    have hothers := branches s others
      (fun b hb => howns _ (List.mem_append_left _ (List.mem_map_of_mem hb)))
      (fun m hm =>
        h m (List.mem_cons_of_mem _ (List.mem_append_right _ (List.mem_append_left _ hm))))
      hlast.handledBy
    have hfirst := branch_ s first hown
      (fun m hm => h m (List.mem_cons_of_mem _ (List.mem_append_left _ hm))) hothers
    exact hfirst.mono nofun
  | .choose cases none span, h => by
    have howns := h _ (Node.mem_within_self _)
    have hcases := cases_ s cases
      (fun k hk => howns _ (List.mem_append_left _ (List.mem_map_of_mem hk)))
      fun m hm => h m (List.mem_cons_of_mem _ (List.mem_append_left _ hm))
    exact (hcases.choice .none).mono nofun
  | .choose cases (some body) span, h => by
    have howns := h _ (Node.mem_within_self _)
    have hcases := cases_ s cases
      (fun k hk => howns _ (List.mem_append_left _ (List.mem_map_of_mem hk)))
      fun m hm => h m (List.mem_cons_of_mem _ (List.mem_append_left _ hm))
    have hlast := body_ s body (howns _ (List.mem_append_right _ (List.mem_cons_self ..)))
      fun m hm => h m (List.mem_cons_of_mem _ (List.mem_append_right _ hm))
    exact (hcases.choice (.some hlast)).mono nofun
  | .foreach head body, h => by
    have hbody := node s body fun m hm => h m (List.mem_cons_of_mem _ hm)
    exact ((hbody.bind fun _ => pure ()).loop s head).handledBy.mono nofun
  | .sequence children, h =>
    (nodes s children fun m hm => h m (List.mem_cons_of_mem _ hm)).bind fun _ => pure true

theorem nodes (s : Setting) : (ns : List Node) → (∀ m ∈ Node.allWithin ns, Decides m) →
    Indifferent before (Node.anyContainsBind ns) (Node.applyAll s ns)
      (Node.applyAll s (Node.allScopedEverywhere ns))
  | [], _ => pure ()
  | n :: rest, h => by
    have hn := node s n fun m hm => h m (List.mem_append_left _ hm)
    have hrest := nodes s rest fun m hm => h m (List.mem_append_right _ hm)
    refine ((hn.bind fun _ => pure ()).mono fun hb => ?_).bind fun _ => hrest.mono fun hb => ?_
    · rw [Node.anyContainsBind, hb, Bool.true_or]
    · rw [Node.anyContainsBind, hb, Bool.or_true]

/-- A body without a scope binds nothing, so it may as well be given one. -/
theorem body_ (s : Setting) : (b : Body) → b.ownScope = b.containsBind →
    (∀ m ∈ b.within, Decides m) →
      Indifferent before false (b.apply s) (b.scopedEverywhere.apply s)
  | ⟨own, n⟩, hown, h => by
    have hn := node s n h
    cases own with
    | true => exact (hn.bind fun _ => pure ()).inScope
    | false =>
      have hnone : n.containsBind = false := hown.symm
      rw [hnone] at hn
      exact (hn.bind fun _ => pure ()).inExtraScope

theorem branch_ (s : Setting) : (b : Branch) → b.body.ownScope = b.body.containsBind →
    (∀ m ∈ b.within, Decides m) → {x y : Render Bool} → Indifferent before false x y →
      Indifferent before false (b.apply s x) (b.scopedEverywhere.apply s y)
  | ⟨tag, test, body, _⟩, hown, h, _, _, hnext =>
    (body_ s body hown h).branch s tag.name test hnext

theorem branches (s : Setting) : (bs : List Branch) →
    (∀ b ∈ bs, b.body.ownScope = b.body.containsBind) →
      (∀ m ∈ Branch.allWithin bs, Decides m) → {x y : Render Bool} →
        Indifferent before false x y →
          Indifferent before false (Branch.applyAll s x bs)
            (Branch.applyAll s y (Branch.allScopedEverywhere bs))
  | [], _, _, _, _, hnext => hnext
  | b :: rest, hown, h, _, _, hnext =>
    branch_ s b (hown b (List.mem_cons_self ..)) (fun m hm => h m (List.mem_append_left _ hm))
      (branches s rest (fun k hk => hown k (List.mem_cons_of_mem _ hk))
        (fun m hm => h m (List.mem_append_right _ hm)) hnext)

theorem cases_ (s : Setting) : (cs : List Case) →
    (∀ k ∈ cs, k.body.ownScope = k.body.containsBind) →
      (∀ m ∈ Case.allWithin cs, Decides m) →
        Indifferent before false (Case.applyAll s cs)
          (Case.applyAll s (Case.allScopedEverywhere cs))
  | [], _, _ => pure false
  | ⟨test, breaks, body, span⟩ :: rest, hown, h => by
    have hbody := body_ s body (hown ⟨test, breaks, body, span⟩ (List.mem_cons_self ..))
      fun m hm => h m (List.mem_append_left _ hm)
    have hrest := cases_ s rest (fun k hk => hown k (List.mem_cons_of_mem _ hk))
      fun m hm => h m (List.mem_append_right _ hm)
    exact (hbody.case s test breaks).andThenCases hrest

end

end Indifferent

end Render

end DynamicSql
