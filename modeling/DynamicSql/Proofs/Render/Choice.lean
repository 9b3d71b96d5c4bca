/-
What a choice runs.

The marks that cases leave for one another decide what the later ones do, and
they are shared with the choices around and inside. Looked at from outside, a
choice is simpler than that: it asks some tests, then runs some bodies one
after the other, and gives the marks back as they were. Which tests and which
bodies is told by the table below (`ChoiceTable`).

# The table

- Found with the mark of a case that is run through, a choice asks nothing
  and runs all its bodies.
- Else the tests are asked in order up to the first that does not fail to
  hold. If that one holds, its body is run, and the bodies after it unless it
  ends the choice. If it cannot be evaluated, the choice fails.
- If no test holds, the last body is run, if there is one.

# The invariant

The mark of a case that ended its choice is never seen by a body: the choice
is over then, and gives back the marks that it found. So wherever a node is
applied, no such mark is there, provided that none was at the beginning
(`leavesMarks_node`). The table depends on it, since a case that is run without
asking looks at both marks.
-/
import DynamicSql.Proofs.Render.Course

namespace DynamicSql

namespace Context

/-- The context with several expressions noted as asked. -/
def askAll (ctx : Context) (texts : List String) : Context :=
  { ctx with asked := ctx.asked ++ texts }

@[simp] theorem askAll_nil (c : Context) : c.askAll [] = c := by
  unfold askAll
  rw [List.append_nil]

@[simp] theorem askAll_cons (c : Context) (text : String) (texts : List String) :
    c.askAll (text :: texts) = (c.ask text).askAll texts := by
  unfold askAll ask
  rw [List.append_assoc, List.singleton_append]

theorem askAll_concat (c : Context) (texts : List String) (text : String) :
    c.askAll (texts ++ [text]) = (c.askAll texts).ask text := by
  unfold askAll ask
  rw [List.append_assoc]

end Context

namespace Render

open Template (Node Body Branch Case LoopHead)

variable {α : Type} {s : Setting} {c d : Context} {t : List Moment}

-- ============================================================ no marks

/-- The marks are left as they were found. If no case had ended its choice
before, none has at any moment in between. -/
structure Unmarked (c : Context) (t : List Moment) (d : Context) : Prop where
  matched : d.matched = c.matched
  broke : d.broke = c.broke
  moments : c.broke = false → ∀ m ∈ t, m.ctx.broke = false

namespace Unmarked

theorem of_eq (hmatched : d.matched = c.matched) (hbroke : d.broke = c.broke) :
    Unmarked c [] d := ⟨hmatched, hbroke, fun _ _ hm => nomatch hm⟩

theorem trans {e : Context} {t' : List Moment} (h : Unmarked c t d) (h' : Unmarked d t' e) :
    Unmarked c (t ++ t') e where
  matched := h'.matched.trans h.matched
  broke := h'.broke.trans h.broke
  moments hc m hm := by
    rcases List.mem_append.mp hm with hm | hm
    · exact h.moments hc m hm
    · exact h'.moments (h.broke.trans hc) m hm

/-- A moment of its own begins in the context itself. -/
theorem cons (h : Unmarked c t d) {m : Moment} (hm : m.ctx = c) : Unmarked c (m :: t) d where
  matched := h.matched
  broke := h.broke
  moments hc m' hm' := by
    rcases List.mem_cons.mp hm' with rfl | hm'
    · rw [hm]
      exact hc
    · exact h.moments hc m' hm'

end Unmarked

@[simp] theorem matched_append (c : Context) (text : String) :
    (c.append text).matched = c.matched :=
  (congrArg Context.matched (Context.silence_append c text) :)

@[simp] theorem broke_append (c : Context) (text : String) :
    (c.append text).broke = c.broke :=
  (congrArg Context.broke (Context.silence_append c text) :)

theorem Unmarked.iteration {head : LoopHead} {separator : Option String} {key item : Value}
    (h : Unmarked (enterElement c head separator key item) t d) :
    Unmarked c (.iteration head c :: t) d.leaveIteration := by
  obtain ⟨hmatched, hbroke, hmoments⟩ := h
  rw [matched_enterElement] at hmatched
  rw [broke_enterElement] at hbroke hmoments
  have hinside : Unmarked c t d.leaveIteration := ⟨hmatched, hbroke, hmoments⟩
  exact hinside.cons rfl

/-- Nothing outside of choices touches the marks. -/
theorem coursewise_unmarked :
    Coursewise (fun _ => True) fun _ c t _ d => Unmarked c t d where
  stay _ := .of_eq rfl rfl
  trans h h' := h.trans h'
  ask _ _ := .of_eq rfl rfl
  addValue _ := .of_eq rfl rfl
  collect _ _ h := ⟨h.matched, h.broke, (h.cons rfl).moments⟩
  refuse _ h := h.cons rfl
  append text := .of_eq (matched_append _ text) (broke_append _ text)
  put _ _ := .of_eq rfl rfl
  node _ h := h.cons rfl
  scope h := ⟨h.matched, h.broke, h.moments⟩
  iteration _ h := h.iteration

/-- An action that leaves the marks alone, wherever it begins. -/
def LeavesMarks (x : Traced α) : Prop := Follows (fun _ c t _ d => Unmarked c t d) [] x

theorem LeavesMarks.course {x : Traced α} (h : LeavesMarks x) {r : Except RenderError α}
    (hx : Traced.Course x c t r d) : Unmarked c t d := by
  have hunmarked := h c
  rw [hx.trace_eq, hx.outcome_eq] at hunmarked
  exact hunmarked

-- ================================================================ steps

/-- Actions run one after the other, up to the first that fails. -/
inductive Steps : List (Traced Unit) → Context → List Moment → Except RenderError Unit →
    Context → Prop where
  | done {c : Context} : Steps [] c [] (.ok ()) c
  | next {x : Traced Unit} {xs : List (Traced Unit)} {c d e : Context} {t t' : List Moment}
      {r : Except RenderError Unit} (first : Traced.Course x c t (.ok ()) d)
      (rest : Steps xs d t' r e) : Steps (x :: xs) c (t ++ t') r e
  | fails {x : Traced Unit} {xs : List (Traced Unit)} {c d : Context} {t : List Moment}
      {error : RenderError} (first : Traced.Course x c t (.error error) d) :
      Steps (x :: xs) c t (.error error) d

namespace Steps

theorem intro (xs : List (Traced Unit)) (c : Context) : ∃ t r d, Steps xs c t r d := by
  induction xs generalizing c with
  | nil => exact ⟨[], .ok (), c, .done⟩
  | cons x xs ih =>
    have hx := Traced.Course.intro x c
    rcases hrun : outcome x.run c with ⟨e | _, d⟩
    · rw [hrun] at hx
      exact ⟨_, _, _, .fails hx⟩
    · rw [hrun] at hx
      obtain ⟨t, r, e, hrest⟩ := ih d
      exact ⟨_, _, _, .next hx hrest⟩

/-- Steps that leave the marks alone do so together. -/
theorem unmarked {xs : List (Traced Unit)} {r : Except RenderError Unit}
    (h : Steps xs c t r d) (hxs : ∀ x ∈ xs, LeavesMarks x) : Unmarked c t d := by
  induction h with
  | done => exact .of_eq rfl rfl
  | next hfirst _ ih =>
    obtain ⟨hx, hrest⟩ := List.forall_mem_cons.mp hxs
    exact (hx.course hfirst).trans (ih hrest)
  | fails hfirst => exact (hxs _ (List.mem_cons_self ..)).course hfirst

end Steps

namespace Traced

-- ============================================================= one case

section Case

variable {test : String} {breaks : Bool} {body : Traced Unit} {r : Except RenderError Unit}

/-- A case that is run through is not asked. -/
theorem course_case_of_matched (hmatched : c.matched = true) (hbroke : c.broke = false)
    (hbody : Course body c t r d) :
    Course (case s test breaks body) c t (r.map fun _ => true) d := by
  refine Course.get ?_
  rw [hmatched, hbroke]
  exact hbody.map

/-- The outcome of the test of a case decides about the case. -/
theorem course_case_of_asked (hmatched : c.matched = false) {taken : Bool}
    (htest : s.evaluator.condition test c.vars = .ok taken) {r' : Except RenderError Bool}
    (hrest : Course (if taken then do
        body
        silent (update fun ctx => { ctx with matched := true, broke := breaks })
        return true
      else return false) (c.ask test) t r' d) :
    Course (case s test breaks body) c t r' d := by
  refine Course.get ?_
  rw [hmatched]
  have hasked : outcome (holds s "when" test) c = (.ok taken, c.ask test) := by
    rw [holds, outcome_ask, htest]
    rfl
  exact (Course.silent hasked).bind hrest

theorem course_case_of_error (hmatched : c.matched = false) {e : EvalError}
    (htest : s.evaluator.condition test c.vars = .error e) :
    Course (case s test breaks body) c [] (.error (.expression "when" test e)) (c.ask test) := by
  refine Course.get ?_
  rw [hmatched]
  have hasked : outcome (holds s "when" test) c
      = (.error (.expression "when" test e), c.ask test) := by
    rw [holds, outcome_ask, htest]
    rfl
  exact (Course.silent hasked).bind_error

end Case

-- ======================================================== several cases

section Cases

variable {first rest : Traced Bool} {handled : Bool} {e : Context} {t' : List Moment}
  {r : Except RenderError Bool}

theorem course_andThenCases_error {error : RenderError}
    (hfirst : Course first c t (.error error) d) :
    Course (andThenCases first rest) c t (.error error) d := hfirst.bind_error

theorem course_andThenCases_stop (hfirst : Course first c t (.ok handled) d)
    (hd : (d.matched && d.broke) = true) :
    Course (andThenCases first rest) c t (.ok handled) d := by
  have hboth : Course (andThenCases first rest) c (t ++ []) (.ok handled) d := by
    refine hfirst.bind (Course.get ?_)
    rw [hd]
    exact Course.pure handled d
  rw [List.append_nil] at hboth
  exact hboth

theorem course_andThenCases_next (hfirst : Course first c t (.ok handled) d)
    (hd : (d.matched && d.broke) = false) (hrest : Course rest d t' r e) :
    Course (andThenCases first rest) c (t ++ t') (r.map fun later => handled || later) e := by
  refine hfirst.bind (Course.get ?_)
  rw [hd]
  exact hrest.map

end Cases

/-- Once a case is run through, so are all that follow it. -/
theorem course_cases_of_matched {ks : List (CaseOf (Traced Unit))}
    (hks : ∀ k ∈ ks, LeavesMarks k.body) (hmatched : c.matched = true)
    (hbroke : c.broke = false) {r : Except RenderError Unit}
    (hsteps : Steps (ks.map CaseOf.body) c t r d) :
    Course (cases s ks) c t (r.map fun _ => !ks.isEmpty) d := by
  induction ks generalizing c t with
  | nil =>
    cases hsteps
    exact Course.pure false _
  | cons k ks ih =>
    obtain ⟨hk, hrest⟩ := List.forall_mem_cons.mp hks
    cases hsteps with
    | fails hbody =>
      exact course_andThenCases_error (course_case_of_matched hmatched hbroke hbody)
    | @next _ _ _ d' _ t₁ _ _ hbody hsteps =>
      have hcase : Course (case s k.test k.breaks k.body) c t₁ (.ok true) d' :=
        course_case_of_matched hmatched hbroke hbody
      have hleft := hk.course hbody
      have hmatched' := hleft.matched.trans hmatched
      have hbroke' := hleft.broke.trans hbroke
      have hboth := course_andThenCases_next hcase (by rw [hbroke', Bool.and_false])
        (ih hrest hmatched' hbroke' hsteps)
      cases r <;> exact hboth

/-- What is run when a case is taken: its body, then the bodies of those after
it unless it ends the choice. -/
def taken (k : CaseOf (Traced Unit)) (later : List (CaseOf (Traced Unit))) :
    List (Traced Unit) :=
  k.body :: silent (Render.update fun ctx => ctx.mark k.breaks)
    :: if k.breaks then [] else later.map CaseOf.body

/-- Either the body of the case fails, or its mark is made and the later bodies
are run. -/
theorem steps_taken {k : CaseOf (Traced Unit)} {later : List (CaseOf (Traced Unit))}
    {r : Except RenderError Unit} (h : Steps (taken k later) c t r d) :
    (∃ error, r = .error error ∧ Course k.body c t (.error error) d)
      ∨ ∃ t₁ t₂ e, t = t₁ ++ t₂ ∧ Course k.body c t₁ (.ok ()) e
        ∧ Steps (if k.breaks then [] else later.map CaseOf.body) (e.mark k.breaks) t₂ r d := by
  cases h with
  | fails hbody => exact .inl ⟨_, rfl, hbody⟩
  | @next _ _ _ e _ t₁ t₂ _ hbody hrest =>
    cases hrest with
    | fails hmark => cases hmark.outcome_eq
    | next hmark hrest =>
      have hleft : (.ok (), e.mark k.breaks) = ((.ok (), _) : Except RenderError Unit × Context) :=
        hmark.outcome_eq
      obtain ⟨-, rfl⟩ := Prod.mk.inj hleft
      obtain rfl := hmark.trace_eq
      rw [trace_silent, List.nil_append]
      exact .inr ⟨t₁, _, e, rfl, hbody, hrest⟩

/-- The first case whose test holds is taken. -/
theorem course_cases_of_taken {k : CaseOf (Traced Unit)} {later : List (CaseOf (Traced Unit))}
    (hlater : ∀ k ∈ later, LeavesMarks k.body) (hmatched : c.matched = false)
    (htest : s.evaluator.condition k.test c.vars = .ok true) {r : Except RenderError Unit}
    (hsteps : Steps (taken k later) (c.ask k.test) t r d) :
    Course (cases s (k :: later)) c t (r.map fun _ => true) d := by
  obtain ⟨test, breaks, body⟩ := k
  have hcase : ∀ {t r' d}, Course (do
      body
      silent (Render.update fun ctx => ctx.mark breaks)
      return true) (c.ask test) t r' d → Course (case s test breaks body) c t r' d := fun h =>
    course_case_of_asked hmatched htest h
  rcases steps_taken hsteps with ⟨error, rfl, hbody⟩ | ⟨t₁, t₂, e, rfl, hbody, hrest⟩
  · exact course_andThenCases_error (hcase hbody.bind_error)
  · have hmark : Course (silent (Render.update fun ctx => ctx.mark breaks)) e [] (.ok ())
        (e.mark breaks) := Course.silent rfl
    have hfirst := hcase (hbody.bind (hmark.bind (Course.pure true _)))
    rw [List.append_nil, List.append_nil] at hfirst
    cases breaks with
    | true =>
      cases hrest
      rw [List.append_nil]
      exact course_andThenCases_stop hfirst rfl
    | false =>
      have hboth := course_andThenCases_next hfirst rfl
        (course_cases_of_matched (s := s) hlater rfl rfl hrest)
      cases r <;> exact hboth

/-- A case whose test does not hold is passed over. -/
theorem course_cases_of_passed {before rest : List (CaseOf (Traced Unit))}
    (hmatched : c.matched = false)
    (hbefore : ∀ k ∈ before, s.evaluator.condition k.test c.vars = .ok false)
    {r : Except RenderError Bool}
    (hrest : Course (cases s rest) (c.askAll (before.map CaseOf.test)) t r d) :
    Course (cases s (before ++ rest)) c t r d := by
  induction before generalizing c with
  | nil =>
    rw [List.map_nil, Context.askAll_nil] at hrest
    exact hrest
  | cons k before ih =>
    obtain ⟨htest, hbefore⟩ := List.forall_mem_cons.mp hbefore
    rw [List.map_cons, Context.askAll_cons] at hrest
    have hfirst : Course (case s k.test k.breaks k.body) c [] (.ok false) (c.ask k.test) :=
      course_case_of_asked hmatched htest (Course.pure false _)
    have hnext : ((c.ask k.test).matched && (c.ask k.test).broke) = false := by
      show (c.matched && _) = false
      rw [hmatched, Bool.false_and]
    have hboth := course_andThenCases_next hfirst hnext (ih hmatched hbefore hrest)
    cases r <;> exact hboth

-- ========================================================== the choice

/-- A choice that took a case is over, and gives back the marks. -/
theorem course_choice_of_cases {cases : Traced Bool} {last : Option (Traced Unit)}
    {r : Except RenderError Bool} (hcases : Course cases c t r d)
    (hr : ∀ handled, r = .ok handled → d.matched = true) :
    Course (choice cases last) c t r (restoreMarks c d) := by
  refine Course.bracket ?_
  cases r with
  | error e => exact hcases.bind_error
  | ok handled =>
    rw [← List.append_nil t]
    refine hcases.bind (Course.get ?_)
    rw [if_pos (hr handled rfl)]
    exact Course.pure handled d

/-- A choice that took no case runs its last body. -/
theorem course_choice_of_none {cases : Traced Bool} {last : Option (Traced Unit)}
    (hcases : Course cases c [] (.ok false) d) (hd : d.matched = false)
    {r : Except RenderError Unit} {e : Context} (hsteps : Steps last.toList d t r e) :
    Course (choice cases last) c t (r.map fun _ => last.isSome) (restoreMarks c e) := by
  refine Course.bracket (hcases.bind (t := []) (Course.get ?_))
  rw [hd]
  cases last with
  | none =>
    cases hsteps
    exact Course.pure false d
  | some body =>
    cases hsteps with
    | fails hbody => exact hbody.map
    | next hbody hsteps =>
      cases hsteps
      rw [List.append_nil]
      exact hbody.map

-- ============================================================ the table

section Table

variable {ks before later : List (CaseOf (Traced Unit))} {k : CaseOf (Traced Unit)}
  {last : Option (Traced Unit)} {r : Except RenderError Unit}

theorem course_choice_of_matched (hks : ∀ k ∈ ks, LeavesMarks k.body)
    (hmatched : c.matched = true) (hbroke : c.broke = false)
    (hsteps : Steps (ks.map CaseOf.body) c t r d) :
    Course (choice (cases s ks) last) c t (r.map fun _ => !ks.isEmpty) (restoreMarks c d) := by
  refine course_choice_of_cases (course_cases_of_matched hks hmatched hbroke hsteps) fun _ _ => ?_
  exact (hsteps.unmarked (List.forall_mem_map.mpr hks)).matched.trans hmatched

/-- The mark of the case taken is there when the choice is over. -/
theorem matched_of_steps_taken (hlater : ∀ k ∈ later, LeavesMarks k.body)
    (hsteps : Steps (taken k later) c t (.ok ()) d) : d.matched = true := by
  rcases steps_taken hsteps with ⟨error, herror, -⟩ | ⟨t₁, t₂, e, -, -, hrest⟩
  · cases herror
  · cases hb : k.breaks with
    | true =>
      rw [hb, if_pos rfl] at hrest
      cases hrest
      rfl
    | false =>
      rw [hb, if_neg Bool.false_ne_true] at hrest
      exact (hrest.unmarked (List.forall_mem_map.mpr hlater)).matched

theorem course_choice_of_taken (hlater : ∀ k ∈ later, LeavesMarks k.body)
    (hmatched : c.matched = false)
    (hbefore : ∀ k ∈ before, s.evaluator.condition k.test c.vars = .ok false)
    (htest : s.evaluator.condition k.test c.vars = .ok true)
    (hsteps : Steps (taken k later) (c.askAll ((before ++ [k]).map CaseOf.test)) t r d) :
    Course (choice (cases s (before ++ k :: later)) last) c t (r.map fun _ => true)
      (restoreMarks c d) := by
  rw [List.map_append, List.map_singleton, Context.askAll_concat] at hsteps
  refine course_choice_of_cases (course_cases_of_passed hmatched hbefore
    (course_cases_of_taken (c := c.askAll (before.map CaseOf.test)) hlater hmatched htest
      hsteps)) fun handled hr => ?_
  cases r with
  | error e => cases hr
  | ok _ => exact matched_of_steps_taken hlater hsteps

theorem course_choice_of_failing {e : EvalError} (hmatched : c.matched = false)
    (hbefore : ∀ k ∈ before, s.evaluator.condition k.test c.vars = .ok false)
    (htest : s.evaluator.condition k.test c.vars = .error e) :
    Course (choice (cases s (before ++ k :: later)) last) c []
      (.error (.expression "when" k.test e)) (c.askAll ((before ++ [k]).map CaseOf.test)) := by
  have hcases : Course (cases s (before ++ k :: later)) c []
      (.error (.expression "when" k.test e)) ((c.askAll (before.map CaseOf.test)).ask k.test) :=
    course_cases_of_passed hmatched hbefore
      (course_andThenCases_error (course_case_of_error (c := c.askAll (before.map CaseOf.test))
        hmatched htest))
  have hrestored : (c.askAll (before.map CaseOf.test)).ask k.test
      = restoreMarks c ((c.askAll (before.map CaseOf.test)).ask k.test) := rfl
  rw [List.map_append, List.map_singleton, Context.askAll_concat, hrestored]
  refine course_choice_of_cases hcases fun handled hr => ?_
  cases hr

theorem course_choice_of_otherwise (hmatched : c.matched = false)
    (hks : ∀ k ∈ ks, s.evaluator.condition k.test c.vars = .ok false)
    (hsteps : Steps last.toList (c.askAll (ks.map CaseOf.test)) t r d) :
    Course (choice (cases s ks) last) c t (r.map fun _ => last.isSome) (restoreMarks c d) := by
  have hcases : Course (cases s (ks ++ [])) c [] (.ok false) (c.askAll (ks.map CaseOf.test)) :=
    course_cases_of_passed hmatched hks (Course.pure false _)
  rw [List.append_nil] at hcases
  exact course_choice_of_none hcases hmatched hsteps

/-- Either no test holds, or there is a first that does not fail to hold. -/
theorem exists_first (s : Setting) (vars : Variables) (ks : List (CaseOf (Traced Unit))) :
    (∀ k ∈ ks, s.evaluator.condition k.test vars = .ok false)
      ∨ ∃ before k later, ks = before ++ k :: later
        ∧ (∀ k ∈ before, s.evaluator.condition k.test vars = .ok false)
        ∧ s.evaluator.condition k.test vars ≠ .ok false := by
  induction ks with
  | nil => exact .inl fun _ hk => nomatch hk
  | cons k ks ih =>
    by_cases htest : s.evaluator.condition k.test vars = .ok false
    · rcases ih with hnone | ⟨before, first, later, rfl, hbefore, hfirst⟩
      · exact .inl (List.forall_mem_cons.mpr ⟨htest, hnone⟩)
      · exact .inr ⟨k :: before, first, later, rfl,
          List.forall_mem_cons.mpr ⟨htest, hbefore⟩, hfirst⟩
    · exact .inr ⟨[], k, ks, rfl, (fun _ hk => nomatch hk), htest⟩

end Table

/-- A choice gives back the marks, and none of its bodies sees that a case
has ended it. -/
theorem leavesMarks_choice {ks : List (CaseOf (Traced Unit))} {last : Option (Traced Unit)}
    (hks : ∀ k ∈ ks, LeavesMarks k.body) (hlast : ∀ x ∈ last, LeavesMarks x) :
    LeavesMarks (choice (cases s ks) last) := by
  intro c
  refine ⟨rfl, rfl, fun hbroke => ?_⟩
  cases hmatched : c.matched with
  | true =>
    obtain ⟨t, r, d, hsteps⟩ := Steps.intro (ks.map CaseOf.body) c
    have hcourse : Course (choice (cases s ks) last) c t _ _ :=
      course_choice_of_matched hks hmatched hbroke hsteps
    rw [hcourse.trace_eq]
    exact (hsteps.unmarked (List.forall_mem_map.mpr hks)).moments hbroke
  | false =>
    rcases exists_first s c.vars ks with hnone | ⟨before, k, later, rfl, hbefore, hk⟩
    · obtain ⟨t, r, d, hsteps⟩ := Steps.intro last.toList (c.askAll (ks.map CaseOf.test))
      rw [(course_choice_of_otherwise hmatched hnone hsteps).trace_eq]
      refine (hsteps.unmarked fun x hx => ?_).moments hbroke
      exact hlast x (Option.mem_toList.mp hx)
    · cases htest : s.evaluator.condition k.test c.vars with
      | error e =>
        rw [(course_choice_of_failing hmatched hbefore htest).trace_eq]
        exact fun _ hm => nomatch hm
      | ok holds =>
        cases holds with
        | false => exact absurd htest hk
        | true =>
          obtain ⟨hk', hlater⟩ := List.forall_mem_cons.mp (List.forall_mem_append.mp hks).2
          obtain ⟨t, r, d, hsteps⟩ := Steps.intro (taken k later)
            (c.askAll ((before ++ [k]).map CaseOf.test))
          rw [(course_choice_of_taken hlater hmatched hbefore htest hsteps).trace_eq]
          rcases steps_taken hsteps with ⟨error, -, hbody⟩ | ⟨t₁, t₂, e, rfl, hbody, hrest⟩
          · exact (hk'.course hbody).moments hbroke
          · intro m hm
            rcases List.mem_append.mp hm with hm | hm
            · exact (hk'.course hbody).moments hbroke m hm
            · cases hb : k.breaks with
              | true =>
                rw [hb, if_pos rfl] at hrest
                cases hrest
                cases hm
              | false =>
                rw [hb, if_neg Bool.false_ne_true] at hrest
                exact (hrest.unmarked (List.forall_mem_map.mpr hlater)).moments rfl m hm

end Traced

-- ================================================================ nodes

theorem nodewise_leavesMarks (s : Setting) :
    Traced.Nodewise (fun _ : Unit => s) (fun _ => True) (fun _ => True)
      fun _ _ x => Follows (fun _ c t _ d => Unmarked c t d) [] (x ()) :=
  coursewise_unmarked.nodewise fun hks hlast => Traced.leavesMarks_choice hks hlast

theorem leavesMarks_node (s : Setting) (n : Node) : LeavesMarks (n.traced s) :=
  (nodewise_leavesMarks s).node [] n (fun _ _ => trivial) fun _ _ => trivial

theorem leavesMarks_body (s : Setting) (b : Body) : LeavesMarks (b.traced s) :=
  (nodewise_leavesMarks s).body_ [] b (fun _ _ => trivial) fun _ _ => trivial

/-- Applied in a context, the node asks some tests and then runs some steps,
up to the first that fails. It hands on whether it was handled, unless a step
fails, and gives the marks back. -/
def RunsSteps (s : Setting) (n : Node) (c : Context) (asked : List String) (handled : Bool)
    (steps : List (Traced Unit)) : Prop :=
  ∃ t r d, Steps steps (c.askAll asked) t r d
    ∧ outcome (n.apply s) c = (r.map fun _ => handled, restoreMarks c d)
    ∧ (n.traced s).trace c = .node n c :: t

/-- What a choice runs in a context, told by the mark that it finds and by
what its tests come to there. -/
structure ChoiceTable (s : Setting) (cases : List Case) (otherwise : Option Body)
    (span : Option Span) (c : Context) : Prop where
  through : c.matched = true →
    RunsSteps s (.choose cases otherwise span) c [] (!cases.isEmpty)
      (cases.map fun k => k.body.traced s)
  first : c.matched = false → ∀ before k later, cases = before ++ k :: later →
    (∀ k ∈ before, s.evaluator.condition k.test c.vars = .ok false) →
      s.evaluator.condition k.test c.vars = .ok true →
        RunsSteps s (.choose cases otherwise span) c ((before ++ [k]).map Case.test) true
          (k.body.traced s :: Traced.silent (update fun ctx => ctx.mark k.breaks)
            :: if k.breaks then [] else later.map fun k => k.body.traced s)
  failing : c.matched = false → ∀ before k later e, cases = before ++ k :: later →
    (∀ k ∈ before, s.evaluator.condition k.test c.vars = .ok false) →
      s.evaluator.condition k.test c.vars = .error e →
        outcome ((Node.choose cases otherwise span).apply s) c
            = (.error (.expression "when" k.test e), c.askAll ((before ++ [k]).map Case.test))
          ∧ ((Node.choose cases otherwise span).traced s).trace c
            = [.node (.choose cases otherwise span) c]
  none : c.matched = false →
    (∀ k ∈ cases, s.evaluator.condition k.test c.vars = .ok false) →
      RunsSteps s (.choose cases otherwise span) c (cases.map Case.test) otherwise.isSome
        (otherwise.toList.map fun b => b.traced s)

theorem taken_caseOf (s : Setting) (k : Case) (later : List Case) :
    Traced.taken (Traced.caseOf s k) (later.map (Traced.caseOf s))
      = k.body.traced s :: Traced.silent (update fun ctx => ctx.mark k.breaks)
        :: if k.breaks then [] else later.map fun k => k.body.traced s := by
  rw [Traced.taken, List.map_map]
  rfl

theorem map_test_caseOf (s : Setting) (ks : List Case) :
    (ks.map (Traced.caseOf s)).map CaseOf.test = ks.map Case.test := by
  rw [List.map_map]
  rfl

/-- The course of a choice of a template is that of its cases and its last
body. -/
theorem choose_of_course {s : Setting} {cases : List Case} {otherwise : Option Body}
    {span : Option Span} {r : Except RenderError Bool}
    (h : Traced.Course (Traced.choice (Traced.cases s (cases.map (Traced.caseOf s)))
      (otherwise.map fun b => b.traced s)) c t r d) :
    outcome ((Node.choose cases otherwise span).apply s) c = (r, d)
      ∧ ((Node.choose cases otherwise span).traced s).trace c
        = .node (.choose cases otherwise span) c :: t := by
  have hnoted : Traced.Course (Traced.noting (.node (.choose cases otherwise span)) _) c
      (.node (.choose cases otherwise span) c :: t) r d := h.noting
  rw [← Traced.traced_choose] at hnoted
  rw [← Node.run_traced]
  exact ⟨hnoted.outcome_eq, hnoted.trace_eq⟩

/-- A choice runs what the table says, wherever no case has ended it. -/
theorem choiceTable (s : Setting) (cases : List Case) (otherwise : Option Body)
    (span : Option Span) (hbroke : c.broke = false) : ChoiceTable s cases otherwise span c := by
  have hleaves : ∀ ks : List Case, ∀ k ∈ ks.map (Traced.caseOf s), LeavesMarks k.body :=
    fun ks => List.forall_mem_map.mpr fun k _ => leavesMarks_body s k.body
  have hpassed : ∀ ks : List Case,
      (∀ k ∈ ks, s.evaluator.condition k.test c.vars = .ok false) →
        ∀ k ∈ ks.map (Traced.caseOf s), s.evaluator.condition k.test c.vars = .ok false :=
    fun ks h => List.forall_mem_map.mpr h
  refine ⟨fun hmatched => ?_, fun hmatched before k later heq hbefore htest => ?_,
    fun hmatched before k later e heq hbefore htest => ?_, fun hmatched hnone => ?_⟩
  · obtain ⟨t, r, d, hsteps⟩ := Steps.intro (cases.map fun k => k.body.traced s) c
    refine ⟨t, r, d, ?_, ?_⟩
    · rw [Context.askAll_nil]
      exact hsteps
    · have hcourse : Traced.Course (Traced.choice (Traced.cases s (cases.map (Traced.caseOf s)))
          (otherwise.map fun b => b.traced s)) c t _ _ :=
        Traced.course_choice_of_matched (hleaves cases) hmatched hbroke
          (by rw [List.map_map]; exact hsteps)
      rw [List.isEmpty_map] at hcourse
      exact choose_of_course hcourse
  · subst heq
    obtain ⟨t, r, d, hsteps⟩ := Steps.intro (k.body.traced s
      :: Traced.silent (update fun ctx => ctx.mark k.breaks)
      :: if k.breaks then [] else later.map fun k => k.body.traced s)
      (c.askAll ((before ++ [k]).map Case.test))
    refine ⟨t, r, d, hsteps, choose_of_course ?_⟩
    rw [← taken_caseOf, ← map_test_caseOf s, List.map_append] at hsteps
    rw [List.map_append, List.map_cons]
    exact Traced.course_choice_of_taken (hleaves later) hmatched (hpassed before hbefore) htest
      hsteps
  · subst heq
    rw [← map_test_caseOf s, List.map_append]
    refine choose_of_course ?_
    rw [List.map_append, List.map_cons]
    exact Traced.course_choice_of_failing hmatched (hpassed before hbefore) htest
  · obtain ⟨t, r, d, hsteps⟩ := Steps.intro (otherwise.toList.map fun b => b.traced s)
      (c.askAll (cases.map Case.test))
    refine ⟨t, r, d, hsteps, choose_of_course ?_⟩
    rw [← Option.toList_map, ← map_test_caseOf s] at hsteps
    have hcourse := Traced.course_choice_of_otherwise hmatched (hpassed cases hnone) hsteps
    rw [Option.isSome_map] at hcourse
    exact hcourse

end Render

end DynamicSql
