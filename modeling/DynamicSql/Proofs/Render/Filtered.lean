/-
What an injection filter changes about a render.

With a filter, a render does what it does without one, up to the first
substituted value that the filter rejects, and there it fails. A value that is
accepted leaves no trace of having been looked at. So the two renders are
compared through the values that the one without a filter substitutes
(`substituted`), and this for each action that nodes are made of
(`Restricts`).

# Which values

A text with placeholders substitutes values from left to right, as far as it
gets: what cannot be evaluated ends it, be it the expression of a value or that
of a parameter (`substitutions`). The values of a whole render are those of the
texts that it applies, one after the other, in whichever branch or iteration
that is. They are read off its moments.

# Where the two part

Begun in the same context, the two renders stay in the same context until one
of them fails. So it is enough to look for the first rejected value: either
there is none, and then they are the same, or the filtered one has failed
because of it, whatever the other one goes on to do.
-/
import DynamicSql.Proofs.Render.Nodewise

namespace DynamicSql

namespace Setting

/-- The setting with another filter, or with none. -/
def withFilter (s : Setting) (filter : Option InjectionFilter) : Setting :=
  { s with filter := filter }

end Setting

namespace Render

open Template (Node Body Branch Case Piece LoopHead Bind Place Part)

variable {α β : Type} {s : Setting} {f : InjectionFilter}

-- ============================================================== values

/-- A value that is substituted into a text. -/
structure Substitution where
  expression : String
  value : Value

/-- What of it is written, if the filter lets it pass. -/
def Substitution.text (v : Substitution) : String := v.value.render

/-- The value that a piece of a text substitutes, if it does and has one. -/
def substitution (s : Setting) : Piece → Context → List Substitution
  | .interpolation expression, c =>
    match s.evaluator expression c.vars with
    | .ok v => [⟨expression, v⟩]
    | .error _ => []
  | _, _ => []

/-- The values of what follows an action; none if the action fails. -/
def following (x : Except RenderError α × Context)
    (next : α → Context → List Substitution) : List Substitution :=
  match x with
  | (.ok a, d) => next a d
  | (.error _, _) => []

/-- The values that pieces of a text substitute, up to the first piece that
fails. -/
def substitutions (s : Setting) : List Piece → Context → List Substitution
  | [], _ => []
  | p :: rest, c =>
    substitution s p c ++ following (outcome (piece s p) c) fun _ d => substitutions s rest d

/-- The values that are substituted at a moment. -/
def Moment.substituted (s : Setting) : Moment → List Substitution
  | .node (.placeholders t) ctx => substitutions s t.pieces ctx
  | _ => []

/-- The values that are substituted in a course, in order. -/
def substituted (s : Setting) (moments : List Moment) : List Substitution :=
  moments.flatMap (Moment.substituted s)

theorem substituted_after (x : Render α) (next : α → Context → List Moment) (c : Context) :
    substituted s (Traced.after x next c)
      = following (outcome x c) fun a d => substituted s (next a d) := by
  unfold Traced.after following
  rcases outcome x c with ⟨e | a, d⟩ <;> rfl

theorem following_nil (x : Except RenderError α × Context) :
    following x (fun _ _ => []) = [] := by
  unfold following
  rcases x with ⟨e | a, d⟩ <;> rfl

theorem substituted_append (s : Setting) (t t' : List Moment) :
    substituted s (t ++ t') = substituted s t ++ substituted s t' :=
  List.flatMap_append

-- ========================================================== restriction

/-- What comes of an action under a filter, given what comes of it without one
and the values that it substitutes: the same unless a value is rejected, and
else the failure because of the first one that is. -/
def Restricted (f : InjectionFilter) (values : List Substitution)
    (free strict : Except RenderError α × Context) : Prop :=
  match values.find? fun v => !f.accepts v.text with
  | none => strict = free
  | some v => strict.1 = .error (.injectionRejected v.expression f.pattern)

namespace Restricted

variable {values values' : List Substitution} {free strict : Except RenderError α × Context}

theorem of_none (h : values.find? (fun v => !f.accepts v.text) = none) (heq : strict = free) :
    Restricted f values free strict := by
  rw [Restricted, h]
  exact heq

theorem of_some {v : Substitution} (h : values.find? (fun v => !f.accepts v.text) = some v)
    (hresult : strict.1 = .error (.injectionRejected v.expression f.pattern)) :
    Restricted f values free strict := by
  rw [Restricted, h]
  exact hresult

theorem cases (h : Restricted f values free strict) :
    (values.find? (fun v => !f.accepts v.text) = none ∧ strict = free)
      ∨ ∃ v, values.find? (fun v => !f.accepts v.text) = some v
        ∧ strict.1 = .error (.injectionRejected v.expression f.pattern) := by
  unfold Restricted at h
  cases hfind : values.find? fun v => !f.accepts v.text with
  | none =>
    rw [hfind] at h
    exact .inl ⟨rfl, h⟩
  | some v =>
    rw [hfind] at h
    exact .inr ⟨v, rfl, h⟩

/-- Without values there is nothing to reject. -/
theorem refl (x : Except RenderError α × Context) : Restricted f [] x x := of_none rfl rfl

/-- What is rejected at first is rejected whatever comes afterwards. -/
theorem append_left {free' strict' : Except RenderError β × Context} {v : Substitution}
    (h : values.find? (fun v => !f.accepts v.text) = some v)
    (hresult : strict'.1 = .error (.injectionRejected v.expression f.pattern)) :
    Restricted f (values ++ values') free' strict' := by
  refine of_some ?_ hresult
  rw [List.find?_append, h]
  rfl

/-- If nothing is rejected at first, only what comes afterwards counts. -/
theorem append_right (hnone : values.find? (fun v => !f.accepts v.text) = none)
    (h : Restricted f values' free strict) : Restricted f (values ++ values') free strict := by
  rw [Restricted, List.find?_append, hnone]
  exact h

/-- An action goes on with what the first part gives, under the filter as
without it. -/
theorem bind {x y : Render α} {g h : α → Render β} {c : Context}
    (hx : Restricted f values (outcome x c) (outcome y c))
    {next : α → Context → List Substitution}
    (hnext : ∀ a d, Restricted f (next a d) (outcome (g a) d) (outcome (h a) d)) :
    Restricted f (values ++ following (outcome x c) next)
      (outcome (x >>= g) c) (outcome (y >>= h) c) := by
  rcases hx.cases with ⟨hnone, heq⟩ | ⟨v, hsome, hresult⟩
  · rw [outcome_bind, outcome_bind, heq]
    refine append_right hnone ?_
    rcases outcome x c with ⟨e | a, d⟩
    · exact refl _
    · exact hnext a d
  · refine append_left hsome ?_
    rw [outcome_bind]
    rcases hy : outcome y c with ⟨r, d⟩
    rw [hy] at hresult
    obtain rfl : r = _ := hresult
    rfl

/-- What is done afterwards may be anything that substitutes no value. -/
theorem andThen {x y : Render α} {c : Context}
    (h : Restricted f values (outcome x c) (outcome y c)) (g : α → Render β) :
    Restricted f values (outcome (x >>= g) c) (outcome (y >>= g) c) := by
  have hbind := h.bind fun a d => .refl (outcome (g a) d)
  rwa [following_nil, List.append_nil] at hbind

end Restricted

-- ================================================================= text

theorem restricted_piece (p : Piece) (c : Context) :
    Restricted f (substitution (s.withFilter none) p c)
      (outcome (piece (s.withFilter none) p) c)
      (outcome (piece (s.withFilter (some f)) p) c) := by
  cases p with
  | literal text => exact .refl _
  | parameter m => exact .refl _
  | interpolation text =>
    have hvalue : ∀ filter, outcome (value (s.withFilter filter) "text" text) c
        = ((s.evaluator text c.vars).mapError (.expression "text" text), c.ask text) :=
      fun _ => outcome_ask ..
    have hlog : substitution (s.withFilter none) (.interpolation text) c
        = match s.evaluator text c.vars with
          | .ok v => [⟨text, v⟩]
          | .error _ => [] := rfl
    cases hv : s.evaluator text c.vars with
    | error e =>
      simp only [hv] at hvalue hlog
      rw [hlog, piece, piece, outcome_bind_error (hvalue none),
        outcome_bind_error (hvalue (some f))]
      exact .refl _
    | ok v =>
      simp only [hv] at hvalue hlog
      rw [hlog, piece, piece, outcome_bind_ok (hvalue none), outcome_bind_ok (hvalue (some f))]
      cases haccepts : f.accepts v.render with
      | true =>
        refine .of_none (by simp [Substitution.text, haccepts]) ?_
        show outcome (if f.accepts v.render = true then _ else _) _ = _
        rw [if_pos haccepts]
        rfl
      | false =>
        refine .of_some (v := ⟨text, v⟩) (by simp [Substitution.text, haccepts]) ?_
        show (outcome (if f.accepts v.render = true then _ else _) _).1 = _
        rw [if_neg (Bool.eq_false_iff.mp haccepts)]
        rfl

/-- Pieces are written with a filter as without one, unless it rejects a value
among them. -/
theorem restricted_pieces (ps : List Piece) (c : Context) :
    Restricted f (substitutions (s.withFilter none) ps c)
      (outcome (pieces (s.withFilter none) ps) c)
      (outcome (pieces (s.withFilter (some f)) ps) c) := by
  induction ps generalizing c with
  | nil => exact .refl _
  | cons p rest ih =>
    exact (restricted_piece p c).bind fun text d =>
      (ih d).andThen fun others => pure (text ++ others)

/-- The whole text is, too. -/
theorem restricted_write (ps : List Piece) (c : Context) :
    Restricted f (substitutions (s.withFilter none) ps c)
      (outcome (write (s.withFilter none) ps) c)
      (outcome (write (s.withFilter (some f)) ps) c) :=
  (restricted_pieces ps c).andThen fun text => append text

/-- A text that substitutes nothing has no values. -/
theorem substitutions_eq_nil {ps : List Piece} (h : ∀ e, Piece.interpolation e ∉ ps)
    (c : Context) : substitutions s ps c = [] := by
  induction ps generalizing c with
  | nil => rfl
  | cons p rest ih =>
    have hp : substitution s p c = [] := by
      cases p with
      | interpolation e => exact absurd (List.mem_cons_self ..) (h e)
      | _ => rfl
    have hrest : ∀ d, substitutions s rest d = [] := ih fun e he => h e (List.mem_cons_of_mem _ he)
    rw [substitutions, hp, List.nil_append]
    simp only [hrest]
    exact following_nil _

/-- If no part of an action substitutes anything, the whole does not. -/
theorem substituted_bind {x : Traced α} {g : α → Traced β}
    (hx : ∀ c, substituted s (x.trace c) = []) (hg : ∀ a c, substituted s ((g a).trace c) = [])
    (c : Context) : substituted s ((x >>= g).trace c) = [] := by
  rw [Traced.trace_bind, substituted_append, hx, substituted_after]
  simp only [hg]
  exact following_nil _

/-- The values of a text are told when it is applied, and not again while it is
written. -/
theorem substituted_pieces (ps : List Piece) (c : Context) :
    substituted s ((Traced.pieces s ps).trace c) = [] := by
  induction ps generalizing c with
  | nil => rfl
  | cons p rest ih =>
    have hp : ∀ c, substituted s ((Traced.piece s p).trace c) = [] := fun _ => by
      cases p <;> rfl
    exact substituted_bind hp (fun _ => substituted_bind ih fun _ _ => rfl) c

theorem substituted_write (ps : List Piece) (c : Context) :
    substituted s ((Traced.write s ps).trace c) = [] :=
  substituted_bind (substituted_pieces ps) (fun _ _ => rfl) c

theorem substituted_placeholders (t : Template.PlaceholderText) (c : Context) :
    substituted s (((Node.placeholders t).traced s).trace c) = substitutions s t.pieces c := by
  have hrest : substituted s ((Traced.handledBy (Traced.write s t.pieces)).trace c) = [] :=
    substituted_bind (substituted_write t.pieces) (fun _ _ => rfl) c
  show substitutions s t.pieces c ++ substituted s _ = _
  rw [hrest, List.append_nil]

-- ============================================================= actions

/-- The two settings that are compared. -/
def sides (s : Setting) (f : InjectionFilter) : Bool → Setting
  | false => s.withFilter none
  | true => s.withFilter (some f)

/-- Wherever it is begun, the second action does under the filter what the
first one does without, unless a value is rejected. -/
def Restricts (s : Setting) (f : InjectionFilter) (x : Bool → Traced α) : Prop :=
  ∀ c, Restricted f (substituted (s.withFilter none) ((x false).trace c))
    (outcome (x false).run c) (outcome (x true).run c)

namespace Restricts

/-- What does not look at the filter is the same. -/
theorem silent (x : Render α) : Restricts s f fun _ => Traced.silent x := fun _ => .refl _

theorem pure (a : α) : Restricts s f fun _ => Pure.pure a := silent _

theorem bind {x : Bool → Traced α} {g : Bool → α → Traced β} (hx : Restricts s f x)
    (hg : ∀ a, Restricts s f fun i => g i a) : Restricts s f fun i => x i >>= g i := by
  intro c
  simp only [Traced.trace_bind, substituted_append, substituted_after]
  exact (hx c).bind fun a d => hg a d

theorem bracket {x : Bool → Traced α} (hx : Restricts s f x) (enter : Context → Context)
    (leave : Context → Context → Context) :
    Restricts s f fun i => Traced.bracket enter leave (x i) := by
  intro c
  show Restricted f (substituted _ ((x false).trace (enter c)))
    (outcome (Render.bracket enter leave (x false).run) c)
    (outcome (Render.bracket enter leave (x true).run) c)
  rw [outcome_bracket, outcome_bracket]
  rcases (hx (enter c)).cases with ⟨hnone, heq⟩ | ⟨v, hsome, hresult⟩
  · exact .of_none hnone (by rw [heq])
  · exact .of_some hsome hresult

/-- A moment at which no value is substituted adds none. -/
theorem noting {x : Bool → Traced α} (hx : Restricts s f x) {moment : Context → Moment}
    (hmoment : ∀ c, (moment c).substituted (s.withFilter none) = []) :
    Restricts s f fun i => Traced.noting moment (x i) := by
  intro c
  show Restricted f ((moment c).substituted _ ++ substituted _ ((x false).trace c)) _ _
  rw [hmoment, List.nil_append]
  exact hx c

theorem iteration {x : Bool → Traced Unit} (hx : Restricts s f x) (head : LoopHead)
    (separator : Option String) (key item : Value) :
    Restricts s f fun i => Traced.iteration head separator key item (x i) :=
  noting (bracket ((silent _).bind fun _ => hx.bind fun _ => silent _) _ _) fun _ => rfl

theorem iterations {x : Bool → Traced Unit} (hx : Restricts s f x) (head : LoopHead)
    (found : List Element) (wrote : Bool) (position : Nat) :
    Restricts s f fun i => Traced.iterations head (x i) wrote position found := by
  induction found generalizing wrote position with
  | nil => exact pure ()
  | cons e rest ih =>
    exact (hx.iteration head _ _ _).bind fun applied => ih (wrote || applied) (position + 1)

theorem handledBy {x : Bool → Traced Unit} (hx : Restricts s f x) :
    Restricts s f fun i => Traced.handledBy (x i) :=
  hx.bind fun _ => pure true

theorem case {x : Bool → Traced Unit} (hx : Restricts s f x) (test : String) (breaks : Bool) :
    Restricts s f fun i => Traced.case (sides s f i) test breaks (x i) := by
  have htest : Restricts s f fun i => Traced.silent (holds (sides s f i) "when" test) :=
    silent (holds s "when" test)
  refine (silent (s := s) (f := f) get).bind fun ctx => ?_
  cases ctx.matched && !ctx.broke with
  | true =>
    simp only [if_true]
    exact hx.handledBy
  | false =>
    simp only [Bool.false_eq_true, if_false]
    refine htest.bind fun taken => ?_
    cases taken with
    | true =>
      simp only [if_true]
      exact hx.bind fun _ => (silent _).bind fun _ => pure true
    | false => exact pure false

theorem andThenCases {first rest : Bool → Traced Bool} (hfirst : Restricts s f first)
    (hrest : Restricts s f rest) :
    Restricts s f fun i => Traced.andThenCases (first i) (rest i) := by
  refine hfirst.bind fun handled => (silent (s := s) (f := f) get).bind fun ctx => ?_
  cases ctx.matched && ctx.broke with
  | true =>
    simp only [if_true]
    exact pure handled
  | false =>
    simp only [Bool.false_eq_true, if_false]
    exact hrest.bind fun later => pure (handled || later)

theorem cases {ks : List (CaseOf (Bool → Traced Unit))} (hks : ∀ k ∈ ks, Restricts s f k.body) :
    Restricts s f fun i => Traced.cases (sides s f i) (ks.map (CaseOf.at_ · i)) := by
  induction ks with
  | nil => exact pure false
  | cons k rest ih =>
    obtain ⟨hk, hrest⟩ := List.forall_mem_cons.mp hks
    exact (hk.case k.test k.breaks).andThenCases (ih hrest)

theorem choice {cases : Bool → Traced Bool} {last : Option (Bool → Traced Unit)}
    (hcases : Restricts s f cases) (hlast : ∀ x ∈ last, Restricts s f x) :
    Restricts s f fun i => Traced.choice (cases i) (last.map fun x => x i) := by
  refine bracket (hcases.bind fun handled => (silent (s := s) (f := f) get).bind fun ctx => ?_) _ _
  cases ctx.matched with
  | true =>
    simp only [if_true]
    exact pure handled
  | false =>
    simp only [Bool.false_eq_true, if_false]
    cases last with
    | none => exact pure handled
    | some x => exact (hlast x rfl).handledBy

end Restricts

-- =============================================================== nodes

/-- True of a place at which no value is substituted. -/
def Inert (p : Place) : Prop := ∀ e, p.part ≠ .interpolation e

/-- A filter restricts all that nodes are made of, save the texts that
substitute values. These are told of as whole nodes. -/
theorem nodewise_restricts (s : Setting) (f : InjectionFilter) :
    Traced.Nodewise (sides s f) Inert (fun n => ∀ t, n ≠ .placeholders t)
      fun _ _ x => Restricts s f x where
  pure a := .pure a
  bind hx hg := hx.bind hg
  scope hx := hx.bracket _ _
  append text := .silent _
  write {around} ps ha c := by
    have hnone : ∀ e, Piece.interpolation e ∉ ps := fun e he => by
      have hplace : (⟨around, .interpolation e⟩ : Place) ∈ Piece.places around ps :=
        List.mem_map.mpr ⟨_, List.mem_filterMap.mpr ⟨_, he, rfl⟩, rfl⟩
      exact ha _ hplace e rfl
    have hwrite := restricted_write (s := s) (f := f) ps c
    rw [substitutions_eq_nil hnone] at hwrite
    rw [Traced.run_write, Traced.run_write]
    show Restricted f (substituted _ ((Traced.write (s.withFilter none) ps).trace c)) _ _
    rw [substituted_write]
    exact hwrite
  bindVariable b _ := .silent (bindVariable s b)
  test tag text _ := .silent (holds s tag text)
  elements head _ := .silent (elements s head.collection (head.nullable.getD s.foreachNullable))
  iterations head found _ hx := hx.iterations head found false 0
  choice ks last hks hlast := (Restricts.cases fun k hk => (hks k hk).2).choice hlast
  noting n hn hx := hx.noting fun c => by
    cases n with
    | placeholders t => exact absurd rfl (hn t)
    | _ => rfl

/-- A text is restricted by its values. -/
theorem restricts_placeholders (t : Template.PlaceholderText) :
    Restricts s f fun i => (Node.placeholders t).traced (sides s f i) := by
  intro c
  show Restricted f
    (substituted (s.withFilter none) (((Node.placeholders t).traced (s.withFilter none)).trace c))
    (outcome ((Traced.write (s.withFilter none) t.pieces).run >>= fun _ => pure true) c)
    (outcome ((Traced.write (s.withFilter (some f)) t.pieces).run >>= fun _ => pure true) c)
  rw [Traced.run_write, Traced.run_write, substituted_placeholders]
  exact (restricted_write t.pieces c).andThen fun _ => pure true

theorem restricts_nodes {nodes : List Node}
    (h : ∀ n ∈ nodes, Restricts s f fun i => n.traced (sides s f i)) :
    Restricts s f fun i => Node.tracedAll (sides s f i) nodes := by
  induction nodes with
  | nil => exact .pure ()
  | cons n rest ih =>
    obtain ⟨hn, hrest⟩ := List.forall_mem_cons.mp h
    exact (hn.bind fun _ => .pure ()).bind fun _ => ih hrest

/-- So is every node, by the values of all texts that it applies. -/
theorem restricts_node (s : Setting) (f : InjectionFilter) (n : Node) :
    Restricts s f fun i => n.traced (sides s f i) := by
  have h := nodewise_restricts s f
  have hbody : ∀ {b : Body}, Restricts s f (fun i => b.node.traced (sides s f i)) →
      Restricts s f fun i => b.traced (sides s f i) := fun {b} hb => by
    obtain ⟨own, n⟩ := b
    cases own with
    | true => exact (hb.bind fun _ => .pure ()).bracket _ _
    | false => exact hb.bind fun _ => .pure ()
  have htest : ∀ test, Inert ⟨[], .test test⟩ := fun _ _ => nofun
  induction n using Node.induction with
  | text content => exact Restricts.noting (Restricts.silent _).handledBy fun _ => rfl
  | placeholders t => exact restricts_placeholders t
  | bind b =>
    have hvariable := h.bindVariable b (show Inert ⟨[], .bind b⟩ from fun _ => nofun)
    exact Restricts.noting (hvariable.bind fun _ => .pure false) fun _ => rfl
  | conditional first others otherwise ih =>
    have hbodies : ∀ b ∈ (first :: others).map Branch.body ++ otherwise.toList,
        Restricts s f fun i => b.traced (sides s f i) := fun b hb => hbody (ih b hb)
    have hbranches : ∀ b ∈ first :: others, Inert ⟨[], .test b.test⟩
        ∧ Restricts s f fun i => b.body.traced (sides s f i) := fun b hb =>
      ⟨htest b.test, hbodies _ (List.mem_append_left _ (List.mem_map_of_mem hb))⟩
    exact h.conditionalOf (fun _ => nofun) hbranches fun b hb =>
      hbodies b (List.mem_append_right _ (Option.mem_toList.mpr hb))
  | choose cases otherwise span ih =>
    have hcases : ∀ k ∈ cases, Inert ⟨[], .test k.test⟩
        ∧ Restricts s f fun i => k.body.traced (sides s f i) := fun k hk =>
      ⟨htest k.test, hbody (ih k.body (List.mem_append_left _ (List.mem_map_of_mem hk)))⟩
    exact h.chooseOf (fun _ => nofun) hcases fun b hb =>
      hbody (ih b (List.mem_append_right _ (Option.mem_toList.mpr hb)))
  | foreach head body ih =>
    have hhead : Inert ⟨[], .loop head⟩ := fun _ => nofun
    exact h.foreachOf (fun _ => nofun) hhead fun found =>
      (ih.bind fun _ => .pure ()).iterations head found false 0
  | sequence children ih =>
    exact Restricts.noting ((restricts_nodes ih).bind fun _ => .pure true) fun _ => rfl

-- ========================================================== static nodes

/-- A node that is not dynamic substitutes no value. -/
theorem substituted_of_static {n : Node} (h : n.isDynamic = false) (c : Context) :
    substituted s ((n.traced s).trace c) = [] := by
  induction n using Node.induction generalizing c with
  | text content => rfl
  | placeholders t =>
    rw [substituted_placeholders]
    refine substitutions_eq_nil (fun e he => ?_) c
    have hinterpolated : t.isInterpolated = true := List.any_eq_true.mpr ⟨_, he, rfl⟩
    exact Bool.false_ne_true (h.symm.trans hinterpolated)
  | sequence children ih =>
    have hall : ∀ c, substituted s ((Node.tracedAll s children).trace c) = [] := by
      induction children with
      | nil => exact fun _ => rfl
      | cons n rest ihs =>
        obtain ⟨hn, hrest⟩ := List.forall_mem_cons.mp ih
        obtain ⟨hstatic, hstatics⟩ := Bool.or_eq_false_iff.mp h
        exact substituted_bind (substituted_bind (hn hstatic) fun _ _ => rfl)
          fun _ => ihs hrest hstatics
    exact substituted_bind hall (fun _ _ => rfl) c
  | bind b => cases h
  | conditional first others otherwise ih => cases h
  | choose cases otherwise span ih => cases h
  | foreach head body ih => cases h

/-- So no filter makes a difference to it. -/
theorem outcome_of_static {n : Node} (h : n.isDynamic = false) (filter : Option InjectionFilter)
    (c : Context) :
    outcome (n.apply (s.withFilter filter)) c = outcome (n.apply (s.withFilter none)) c := by
  cases filter with
  | none => rfl
  | some f =>
    have hrestricted : Restricted f
        (substituted (s.withFilter none) ((n.traced (s.withFilter none)).trace c))
        (outcome (n.traced (s.withFilter none)).run c)
        (outcome (n.traced (s.withFilter (some f))).run c) := restricts_node s f n c
    rw [substituted_of_static h, Node.run_traced, Node.run_traced] at hrestricted
    exact hrestricted

end Render

end DynamicSql
