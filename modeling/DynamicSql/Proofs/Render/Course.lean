/-
What holds of the course of every render because it holds of its steps.

A course is what an outsider sees of an action: the context in which it
began, its moments, its result, and the context it left. An action has one
course from each context, and the courses of actions put together are put
together of theirs (`Traced.Course`).

Statements about courses are proved from the ground up: of the few changes
that a context undergoes, and of courses put one after the other. Then they
hold of every node (`Stepwise.course_node`). They know of results only
whether an action succeeded.

# Loops and moments

The statements may speak of the loops around the action. A loop makes its own
head one of these for its body, and each of its iterations has a moment, from
which the course of the iteration begins.

A parameter is collected in two steps, the value and then the mapping, and
the first may fail. It has one moment all the same, which comes before both.
-/
import DynamicSql.Proofs.Render.SameButText

namespace DynamicSql.Render

open Template (Node Body Piece LoopHead Bind Place)

variable {α β : Type}

-- ============================================================== courses

/-- Begun in a context, the action comes to a result by way of moments, and
leaves another context. -/
structure Traced.Course (x : Traced α) (c : Context) (t : List Moment)
    (r : Except RenderError α) (d : Context) : Prop where
  outcome_eq : outcome x.run c = (r, d)
  trace_eq : x.trace c = t

namespace Traced.Course

variable {x : Traced α} {f : α → Traced β} {c d e : Context} {t t' : List Moment}
  {r : Except RenderError α} {r' : Except RenderError β}

theorem intro (x : Traced α) (c : Context) :
    Course x c (x.trace c) (outcome x.run c).1 (outcome x.run c).2 := ⟨rfl, rfl⟩

theorem pure (a : α) (c : Context) : Course (Pure.pure a) c [] (.ok a) c := ⟨rfl, rfl⟩

/-- An action without moments runs to its outcome. -/
theorem silent {y : Render α} (h : outcome y c = (r, d)) : Course (silent y) c [] r d := ⟨h, rfl⟩

theorem bind {a : α} (hx : Course x c t (.ok a) d) (hf : Course (f a) d t' r' e) :
    Course (x >>= f) c (t ++ t') r' e where
  outcome_eq := (outcome_bind_ok hx.outcome_eq).trans hf.outcome_eq
  trace_eq := by rw [trace_bind, after_ok hx.outcome_eq, hx.trace_eq, hf.trace_eq]

/-- Both parts of what succeeds have succeeded. -/
theorem of_bind_ok {b : β} (h : Course (x >>= f) c t (.ok b) e) :
    ∃ a d t₁ t₂, Course x c t₁ (.ok a) d ∧ Course (f a) d t₂ (.ok b) e ∧ t = t₁ ++ t₂ := by
  obtain ⟨houtcome, htrace⟩ := h
  rcases hrun : outcome x.run c with ⟨error | a, d⟩
  · rw [run_bind, outcome_bind_error hrun] at houtcome
    cases houtcome
  · rw [run_bind, outcome_bind_ok hrun] at houtcome
    rw [trace_bind, after_ok hrun] at htrace
    exact ⟨a, d, _, _, ⟨hrun, rfl⟩, ⟨houtcome, rfl⟩, htrace.symm⟩

/-- What follows a failure is not run. -/
theorem bind_error {error : RenderError} (hx : Course x c t (.error error) d) :
    Course (x >>= f) c t (.error error) d where
  outcome_eq := outcome_bind_error hx.outcome_eq
  trace_eq := by rw [trace_bind, after_error hx.outcome_eq, List.append_nil, hx.trace_eq]

/-- Handing on something made of the result changes nothing else. -/
theorem map {g : α → β} (hx : Course x c t r d) :
    Course (x >>= fun a => Pure.pure (g a)) c t (r.map g) d := by
  cases r with
  | error e => exact hx.bind_error
  | ok a =>
    have hboth := hx.bind (f := fun a => Pure.pure (g a)) (Course.pure (g a) d)
    rw [List.append_nil] at hboth
    exact hboth

/-- What is done after looking at the context is done in it. -/
theorem get {f : Context → Traced β} (hf : Course (f c) c t' r' e) :
    Course (Traced.silent MonadState.get >>= f) c t' r' e where
  outcome_eq := hf.outcome_eq
  trace_eq := hf.trace_eq

theorem bracket {enter : Context → Context} {leave : Context → Context → Context}
    (hx : Course x (enter c) t r d) : Course (bracket enter leave x) c t r (leave c d) where
  outcome_eq := by
    show outcome (Render.bracket enter leave x.run) c = _
    rw [outcome_bracket, hx.outcome_eq]
  trace_eq := hx.trace_eq

theorem noting {moment : Context → Moment} (hx : Course x c t r d) :
    Course (noting moment x) c (moment c :: t) r d where
  outcome_eq := hx.outcome_eq
  trace_eq := congrArg (moment c :: ·) hx.trace_eq

end Traced.Course

-- ========================================================== iterations

/-- The context in which the body of a loop is run for an element. -/
def enterElement (ctx : Context) (head : LoopHead) (separator : Option String)
    (key item : Value) : Context :=
  ((ctx.enterIteration head.item head.index separator).putLoopVariable
    ctx.iterations head.index key).putLoopVariable ctx.iterations head.item item

@[simp] theorem frames_enterElement (c : Context) (head : LoopHead)
    (separator : Option String) (key item : Value) :
    (enterElement c head separator key item).frames
      = ⟨separator, false, head.item, head.index, c.iterations⟩ :: c.frames := by
  unfold enterElement Context.putLoopVariable
  cases head.index <;> cases head.item <;> rfl

@[simp] theorem iterations_enterElement (c : Context) (head : LoopHead)
    (separator : Option String) (key item : Value) :
    (enterElement c head separator key item).iterations = c.iterations + 1 := by
  unfold enterElement Context.putLoopVariable
  cases head.index <;> cases head.item <;> rfl

@[simp] theorem mappings_enterElement (c : Context) (head : LoopHead)
    (separator : Option String) (key item : Value) :
    (enterElement c head separator key item).mappings = c.mappings := by
  unfold enterElement Context.putLoopVariable
  cases head.index <;> cases head.item <;> rfl

@[simp] theorem values_enterElement (c : Context) (head : LoopHead)
    (separator : Option String) (key item : Value) :
    (enterElement c head separator key item).values = c.values := by
  unfold enterElement Context.putLoopVariable
  cases head.index <;> cases head.item <;> rfl

@[simp] theorem fragments_enterElement (c : Context) (head : LoopHead)
    (separator : Option String) (key item : Value) :
    (enterElement c head separator key item).fragments = c.fragments := by
  unfold enterElement Context.putLoopVariable
  cases head.index <;> cases head.item <;> rfl

@[simp] theorem matched_enterElement (c : Context) (head : LoopHead)
    (separator : Option String) (key item : Value) :
    (enterElement c head separator key item).matched = c.matched := by
  unfold enterElement Context.putLoopVariable
  cases head.index <;> cases head.item <;> rfl

@[simp] theorem broke_enterElement (c : Context) (head : LoopHead)
    (separator : Option String) (key item : Value) :
    (enterElement c head separator key item).broke = c.broke := by
  unfold enterElement Context.putLoopVariable
  cases head.index <;> cases head.item <;> rfl

/-- An iteration runs the body where its variables are bound, and hands on
whether anything was written. -/
theorem course_iteration {head : LoopHead} {separator : Option String} {key item : Value}
    {body : Traced Unit} {c d : Context} {t : List Moment} {r : Except RenderError Unit}
    (hbody : Traced.Course body (enterElement c head separator key item) t r d) :
    Traced.Course (Traced.iteration head separator key item body) c (.iteration head c :: t)
      (r.map fun _ => d.hasApplied) d.leaveIteration := by
  refine Traced.Course.noting (Traced.Course.bracket ?_)
  have hbind : Traced.Course (Traced.silent (update fun ctx =>
      (ctx.putLoopVariable (ctx.iterations - 1) head.index key).putLoopVariable
        (ctx.iterations - 1) head.item item)) (c.enterIteration head.item head.index separator) []
      (.ok ()) (enterElement c head separator key item) := Traced.Course.silent rfl
  refine hbind.bind ?_
  cases r with
  | error e => exact hbody.bind_error
  | ok u =>
    have hasked : Traced.Course (Traced.silent (get >>= fun ctx : Context =>
        pure ctx.hasApplied)) d [] (.ok d.hasApplied) d := Traced.Course.silent rfl
    have hboth := hbody.bind (f := fun _ => Traced.silent (get >>= fun ctx : Context =>
      pure ctx.hasApplied)) hasked
    rw [List.append_nil] at hboth
    exact hboth

/-- The context with an optional text written. -/
def written (ctx : Context) : Option String → Context
  | none => ctx
  | some text => ctx.append text

theorem outcome_appendOption (text : Option String) (c : Context) :
    outcome (appendOption text) c = (.ok (), written c text) := by
  cases text <;> rfl

/-- A loop that finds no collection fails; one that finds no elements does
nothing; any other writes its opening text, runs its iterations and writes its
closing text unless one of them fails. -/
theorem course_loop (s : Setting) (head : LoopHead) (body : Traced Unit) (c : Context) :
    (∃ error, Traced.Course (Traced.loop s head body) c [] (.error error)
        (c.ask head.collection))
      ∨ ∃ found, s.evaluator.collection (head.nullable.getD s.foreachNullable) head.collection
          c.vars = .ok found
        ∧ (found.getD [] = []
            ∧ Traced.Course (Traced.loop s head body) c [] (.ok ()) (c.ask head.collection)
          ∨ found.getD [] ≠ [] ∧ ∀ t r d,
            Traced.Course (Traced.iterations head body false 0 (found.getD []))
                (written (c.ask head.collection) head.opening) t r d →
              Traced.Course (Traced.loop s head body) c t r
                (if r.isOk then written d head.closing else d)) := by
  have hasked : outcome (elements s head.collection (head.nullable.getD s.foreachNullable)) c
      = (((s.evaluator.collection (head.nullable.getD s.foreachNullable) head.collection
          c.vars).mapError (blameCollection head.collection)).map fun found => found.getD [],
        c.ask head.collection) := by
    rw [elements, outcome_bind, outcome_ask]
    cases s.evaluator.collection (head.nullable.getD s.foreachNullable) head.collection c.vars
      <;> rfl
  cases hfound : s.evaluator.collection (head.nullable.getD s.foreachNullable) head.collection
      c.vars with
  | error e =>
    rw [hfound] at hasked
    exact .inl ⟨_, (Traced.Course.silent hasked).bind_error⟩
  | ok found =>
    rw [hfound] at hasked
    refine .inr ⟨found, rfl, ?_⟩
    cases helements : found.getD [] with
    | nil =>
      refine .inl ⟨rfl, (Traced.Course.silent hasked).bind ?_⟩
      simp only [helements, List.isEmpty_nil, if_true]
      exact Traced.Course.pure () _
    | cons e rest =>
      refine .inr ⟨List.cons_ne_nil e rest, fun t r d hrun => ?_⟩
      refine (Traced.Course.silent hasked).bind ?_
      simp only [helements, List.isEmpty_cons, Bool.false_eq_true, if_false]
      refine (Traced.Course.silent (outcome_appendOption head.opening _)).bind ?_
      cases r with
      | error error => exact hrun.bind_error
      | ok u =>
        have hboth := hrun.bind (f := fun _ => Traced.silent (appendOption head.closing))
          (Traced.Course.silent (outcome_appendOption head.closing d))
        rw [List.append_nil] at hboth
        exact hboth

-- ==================================================== stepwise statements

/-- A statement about courses, as it is needed for the pieces of a text: true
of what is done for a piece, and passed on from parts of a course to the
whole. -/
structure Piecewise (Allowed : Place → Prop)
    (R : (around : List LoopHead) → Context → List Moment → (succeeded : Bool) → Context →
      Prop) : Prop where
  stay : ∀ {around c} (succeeded : Bool), R around c [] succeeded c
  trans : ∀ {around c d e t t'} {succeeded : Bool}, R around c t true d →
    R around d t' succeeded e → R around c (t ++ t') succeeded e
  ask : ∀ {around c} (text : String) (succeeded : Bool), R around c [] succeeded (c.ask text)
  addValue : ∀ {around c} (value : Value), R around c [] true (c.addValue value)
  collect : ∀ {around c d} {m : Parameter.Mapping}, Allowed ⟨around, .parameter m⟩ →
    d.frames = c.frames → R around c [] true d →
      R around c [.parameter m c] true (d.addMapping (Context.uniquify c.frames m))
  refuse : ∀ {around c d} {m : Parameter.Mapping}, Allowed ⟨around, .parameter m⟩ →
    R around c [] false d → R around c [.parameter m c] false d

/-- A statement about courses that is true of all steps but the marks of
choices, and passed on from parts of a course to the whole. -/
structure Coursewise (Allowed : Place → Prop)
    (R : (around : List LoopHead) → Context → List Moment → (succeeded : Bool) → Context →
      Prop) : Prop extends Piecewise Allowed R where
  append : ∀ {around c} (text : String), R around c [] true (c.append text)
  put : ∀ {around c} {b : Bind} (value : Value), Allowed ⟨around, .bind b⟩ →
    R around c [] true (c.put b.name value)
  node : ∀ {around c d t} {succeeded : Bool} (n : Node), R around c t succeeded d →
    R around c (.node n c :: t) succeeded d
  scope : ∀ {around c d t} {succeeded : Bool}, R around c.pushScope t succeeded d →
    R around c t succeeded d.popScope
  iteration : ∀ {around c d t} {succeeded : Bool} {head : LoopHead} {separator : Option String}
    {key item : Value}, Allowed ⟨around, .loop head⟩ →
      R (head :: around) (enterElement c head separator key item) t succeeded d →
        R around c (.iteration head c :: t) succeeded d.leaveIteration

/-- A statement about courses that is true of all steps, and passed on from
parts of a course to the whole. -/
structure Stepwise (Allowed : Place → Prop)
    (R : (around : List LoopHead) → Context → List Moment → (succeeded : Bool) → Context →
      Prop) : Prop extends Coursewise Allowed R where
  mark : ∀ {around c} (breaks : Bool), R around c [] true (c.mark breaks)
  choice : ∀ {around c d t} {succeeded : Bool}, R around c t succeeded d →
    R around c t succeeded (restoreMarks c d)

variable {Allowed : Place → Prop}
  {R : (around : List LoopHead) → Context → List Moment → (succeeded : Bool) → Context → Prop}
  {around : List LoopHead} {s : Setting}

/-- The statement is true of the course of an action, wherever it begins. -/
def Follows (R : (around : List LoopHead) → Context → List Moment → (succeeded : Bool) →
    Context → Prop) (around : List LoopHead) (x : Traced α) : Prop :=
  ∀ c, R around c (x.trace c) (outcome x.run c).1.isOk (outcome x.run c).2

namespace Piecewise

-- ============================================================== actions

theorem follows_pure (h : Piecewise Allowed R) (a : α) :
    Follows R around (pure a : Traced α) := fun _ => h.stay true

theorem follows_bind (h : Piecewise Allowed R) {x : Traced α} {f : α → Traced β}
    (hx : Follows R around x) (hf : ∀ a, Follows R around (f a)) :
    Follows R around (x >>= f) := by
  intro c
  have hfirst := hx c
  rw [Traced.trace_bind, Traced.run_bind]
  rcases hrun : outcome x.run c with ⟨e | a, d⟩
  · rw [hrun] at hfirst
    rw [Traced.after_error hrun, List.append_nil, outcome_bind_error hrun]
    exact hfirst
  · rw [hrun] at hfirst
    rw [Traced.after_ok hrun, outcome_bind_ok hrun]
    exact h.trans hfirst (hf a d)

/-- An action without moments may be put together of others. -/
theorem follows_silent_bind (h : Piecewise Allowed R) {x : Render α} {f : α → Render β}
    (hx : Follows R around (Traced.silent x))
    (hf : ∀ a, Follows R around (Traced.silent (f a))) :
    Follows R around (Traced.silent (x >>= f)) := by
  intro c
  have hboth := h.follows_bind hx hf c
  have hnone : (Traced.silent x >>= fun a => Traced.silent (f a)).trace c = [] := by
    rw [Traced.trace_bind, Traced.trace_silent, List.nil_append]
    unfold Traced.after
    split <;> rfl
  rw [hnone] at hboth
  exact hboth

theorem follows_silent_pure (h : Piecewise Allowed R) (a : α) :
    Follows R around (Traced.silent (pure a)) := fun _ => h.stay true

theorem follows_ask (h : Piecewise Allowed R) (text : String)
    (answer : Variables → Except EvalError α) (blame : EvalError → RenderError) :
    Follows R around (Traced.silent (Render.ask text answer blame)) := by
  intro c
  rw [Traced.trace_silent]
  show R around c [] (outcome (Render.ask text answer blame) c).1.isOk
    (outcome (Render.ask text answer blame) c).2
  rw [outcome_ask]
  exact h.ask text _

-- ================================================================= text

/-- The value of a parameter is asked for and kept, and then its mapping. -/
theorem course_collect (h : Piecewise Allowed R) {m : Parameter.Mapping}
    (ha : Allowed ⟨around, .parameter m⟩) (c : Context) :
    R around c [.parameter m c] (outcome (Render.collect s m) c).1.isOk
      (outcome (Render.collect s m) c).2 := by
  cases hs : s.collectsValues with
  | false =>
    rw [outcome_collect_plain hs]
    exact h.collect ha rfl (h.stay true)
  | true =>
    cases hv : s.evaluator (Context.uniquify c.frames m).source.text c.vars with
    | error e =>
      rw [outcome_collect_error hs hv]
      exact h.refuse ha (h.ask _ false)
    | ok v =>
      rw [outcome_collect_ok hs hv]
      exact h.collect ha rfl (h.trans (h.ask _ true) (h.addValue v))

theorem follows_piece (h : Piecewise Allowed R) (p : Piece)
    (ha : ∀ q ∈ Piece.places around [p], Allowed q) : Follows R around (Traced.piece s p) := by
  cases p with
  | literal text => exact h.follows_silent_pure text
  | interpolation text =>
    refine h.follows_silent_bind (h.follows_ask text _ _) fun v => ?_
    cases s.filter with
    | none => exact h.follows_silent_pure v.render
    | some filter =>
      cases hf : filter.accepts v.render with
      | true =>
        simp only [hf, if_true]
        exact h.follows_silent_pure v.render
      | false =>
        simp only [hf, Bool.false_eq_true, if_false]
        exact fun _ => h.stay false
  | parameter m =>
    intro c
    have hcourse := h.course_collect (s := s) (ha _ (List.mem_singleton.mpr rfl)) c
    show R around c [.parameter m c] (outcome (Render.piece s (.parameter m)) c).1.isOk
      (outcome (Render.piece s (.parameter m)) c).2
    rw [outcome_parameter]
    rcases hrun : outcome (Render.collect s m) c with ⟨_ | _, d⟩
    · rw [hrun] at hcourse
      exact hcourse
    · rw [hrun] at hcourse
      exact hcourse

theorem follows_pieces (h : Piecewise Allowed R) (ps : List Piece)
    (ha : ∀ q ∈ Piece.places around ps, Allowed q) : Follows R around (Traced.pieces s ps) := by
  induction ps with
  | nil => exact h.follows_pure ""
  | cons p rest ih =>
    have hplaces : Piece.places around (p :: rest)
        = Piece.places around [p] ++ Piece.places around rest := by
      rw [Piece.places, Piece.places, Piece.places, ← List.map_append, ← List.filterMap_append]
      rfl
    rw [hplaces] at ha
    refine h.follows_bind (h.follows_piece p fun q hq => ?_) fun text =>
      h.follows_bind (ih fun q hq => ?_) fun others => h.follows_pure _
    · exact ha q (List.mem_append_left _ hq)
    · exact ha q (List.mem_append_right _ hq)

end Piecewise

namespace Coursewise

-- ================================================================ loops

theorem follows_iteration (h : Coursewise Allowed R) {head : LoopHead}
    (ha : Allowed ⟨around, .loop head⟩) {separator : Option String} {key item : Value}
    {body : Traced Unit} (hb : Follows R (head :: around) body) :
    Follows R around (Traced.iteration head separator key item body) := by
  intro c
  have hinside : Follows R (head :: around) (body >>= fun _ =>
      Traced.silent (get >>= fun ctx : Context => pure ctx.hasApplied)) :=
    h.follows_bind hb fun _ _ => h.stay true
  have hcourse := h.iteration ha (hinside (enterElement c head separator key item))
  exact hcourse

theorem follows_iterations (h : Coursewise Allowed R) {head : LoopHead}
    (ha : Allowed ⟨around, .loop head⟩) {body : Traced Unit}
    (hb : Follows R (head :: around) body) (found : List Element) (wrote : Bool)
    (position : Nat) : Follows R around (Traced.iterations head body wrote position found) := by
  induction found generalizing wrote position with
  | nil => exact h.follows_pure ()
  | cons e rest ih =>
    exact h.follows_bind (h.follows_iteration ha hb) fun applied =>
      ih (wrote || applied) (position + 1)

-- ================================================================ nodes

theorem follows_write (h : Coursewise Allowed R) (ps : List Piece)
    (ha : ∀ q ∈ Piece.places around ps, Allowed q) : Follows R around (Traced.write s ps) :=
  h.follows_bind (h.follows_pieces ps ha) fun text _ => h.append text

theorem follows_bindVariable (h : Coursewise Allowed R) (b : Bind)
    (ha : Allowed ⟨around, .bind b⟩) :
    Follows R around (Traced.silent (Render.bindVariable s b)) :=
  h.follows_silent_bind (h.follows_ask b.value _ _) fun v _ => h.put v ha

theorem follows_elements (h : Coursewise Allowed R) (text : String) (nullable : Bool) :
    Follows R around (Traced.silent (Render.elements s text nullable)) :=
  h.follows_silent_bind (h.follows_ask _ _ _) fun _ => h.follows_silent_pure _

/-- What marks do not spoil is nodewise if it is passed on to choices as a
whole. -/
theorem nodewise (h : Coursewise Allowed R)
    (hchoice : ∀ {around : List LoopHead} {ks : List (CaseOf (Traced Unit))}
      {last : Option (Traced Unit)}, (∀ k ∈ ks, Follows R around k.body) →
        (∀ x ∈ last, Follows R around x) →
          Follows R around (Traced.choice (Traced.cases s ks) last)) :
    Traced.Nodewise (fun _ : Unit => s) Allowed (fun _ => True)
      fun around _ x => Follows R around (x ()) where
  pure a := h.follows_pure a
  bind hx hf := h.follows_bind hx hf
  scope hx := fun c => h.scope (hx c.pushScope)
  append text := fun _ => h.append text
  write ps ha := h.follows_write ps ha
  bindVariable b ha := h.follows_bindVariable b ha
  test _ text _ := h.follows_ask text _ _
  elements _ _ := h.follows_elements _ _
  iterations _ found ha hx := h.follows_iterations ha hx found false 0
  choice ks last hk hl := by
    refine hchoice (fun k hmem => ?_) fun x hmem => ?_
    · obtain ⟨k, hin, rfl⟩ := List.mem_map.mp hmem
      exact (hk k hin).2
    · obtain ⟨x, hin, rfl⟩ := Option.map_eq_some_iff.mp hmem
      exact hl x hin
  noting n _ hx := fun c => h.node n (hx c)

end Coursewise

namespace Stepwise

theorem compositional (h : Stepwise Allowed R) :
    Traced.Compositional (fun _ : Unit => s) Allowed
      fun around _ _ x => Follows R around (x ()) where
  pure a := h.follows_pure a
  bind hx hf := h.follows_bind hx hf
  weaken hx := hx
  marks := fun _ => h.stay true
  mark breaks := fun _ => h.mark breaks
  choice hx := fun c => h.choice (hx c)
  scope hx := fun c => h.scope (hx c.pushScope)
  append text := fun _ => h.append text
  write ps ha := h.follows_write ps ha
  bindVariable b ha := h.follows_bindVariable b ha
  test _ text _ := h.follows_ask text _ _
  elements _ _ := h.follows_elements _ _
  iterations _ found ha hx := h.follows_iterations ha hx found false 0
  noting n hx := fun c => h.node n (hx c)

theorem follows_node (h : Stepwise Allowed R) (around : List LoopHead) (n : Node)
    (ha : ∀ p ∈ n.places around, Allowed p) : Follows R around (n.traced s) :=
  h.compositional.node around n ha

theorem follows_body (h : Stepwise Allowed R) (around : List LoopHead) (b : Body)
    (ha : ∀ p ∈ b.places around, Allowed p) : Follows R around (b.traced s) :=
  h.compositional.nodewise.body_ around b ha fun _ _ => trivial

/-- What is stepwise true is true of the course of every node whose parts
allow it. -/
theorem course_node (h : Stepwise Allowed R) (around : List LoopHead) (n : Node)
    (ha : ∀ p ∈ n.places around, Allowed p) (c : Context) :
    R around c ((n.traced s).trace c) (outcome (n.apply s) c).1.isOk
      (outcome (n.apply s) c).2 := by
  rw [← Node.run_traced]
  exact h.follows_node around n ha c

end Stepwise

-- ====================================================== loops around

/-- The loops around are the same in both contexts, whatever they owe.
Iterations may have begun in between. -/
structure SameLoops (c d : Context) : Prop where
  frames : d.frames.map LoopFrame.silence = c.frames.map LoopFrame.silence
  iterations : c.iterations ≤ d.iterations

namespace SameLoops

variable {c d e : Context}

theorem of_eq (hframes : d.frames.map LoopFrame.silence = c.frames.map LoopFrame.silence)
    (hiterations : d.iterations = c.iterations) : SameLoops c d :=
  ⟨hframes, Nat.le_of_eq hiterations.symm⟩

theorem trans (h : SameLoops c d) (h' : SameLoops d e) : SameLoops c e :=
  ⟨h'.frames.trans h.frames, Nat.le_trans h.iterations h'.iterations⟩

/-- After an iteration the loops around are those before it. -/
theorem iteration {head : LoopHead} {separator : Option String} {key item : Value}
    (h : SameLoops (enterElement c head separator key item) d) :
    SameLoops c d.leaveIteration := by
  obtain ⟨hframes, hiterations⟩ := h
  rw [frames_enterElement] at hframes
  rw [iterations_enterElement] at hiterations
  refine ⟨?_, Nat.le_of_succ_le hiterations⟩
  show d.frames.tail.map LoopFrame.silence = _
  rw [List.map_tail, hframes]
  rfl

end SameLoops

end DynamicSql.Render
