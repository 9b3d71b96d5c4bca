/-
What loops owe is paid once, and by nobody but the first text.

The separators that are owed when an action begins make no difference to what
it does. It writes the same text as it would if nothing were owed, except that
they are inserted before the first of its texts that is not blank
(`pay`). If all of its texts are blank, the debts are still there afterwards.

# How this is seen

An action is compared with itself, begun in silence: where nothing was written
yet, and no loop around owes anything. From what it does there, what it does
in any other context can be told (`Context.resume`), and the text of actions
one after the other is put together as it should be (`resume_resume`).

# Loops inside

The iterations of a loop inside owe separators of their own, and these come
after the ones that were owed before. The two never meet: an iteration owes
its separator only after an iteration before it has written something, and
that text paid what was owed until then. So of the two lists one is empty
(`resumesAt_iteration`).
-/
import DynamicSql.Proofs.Render.Course
import DynamicSql.Proofs.Render.Sketch

namespace DynamicSql

-- ================================================================ paying

/-- True if none of the texts pays debts. -/
def Text.areBlank (texts : List String) : Bool := texts.all Text.allBlank

/-- The texts with what is owed inserted before the first that is not
blank. -/
def Text.pay (owed : List String) : List String → List String
  | [] => []
  | text :: rest => if Text.allBlank text then text :: pay owed rest else owed ++ text :: rest

namespace Text

@[simp] theorem areBlank_cons (text : String) (rest : List String) :
    areBlank (text :: rest) = (allBlank text && areBlank rest) := List.all_cons

theorem areBlank_append (texts texts' : List String) :
    areBlank (texts ++ texts') = (areBlank texts && areBlank texts') := List.all_append

theorem pay_cons_of_blank {text : String} (h : allBlank text = true)
    (owed rest : List String) : pay owed (text :: rest) = text :: pay owed rest := by
  rw [pay, if_pos h]

theorem pay_cons_of_not_blank {text : String} (h : allBlank text = false)
    (owed rest : List String) : pay owed (text :: rest) = owed ++ text :: rest := by
  rw [pay, if_neg (Bool.eq_false_iff.mp h)]

@[simp] theorem pay_none (texts : List String) : pay [] texts = texts := by
  induction texts with
  | nil => rfl
  | cons text rest ih => rw [pay, ih, List.nil_append, ite_self]

/-- Debts are paid by the first of two parts, or by the second if all of the
first is blank. -/
theorem pay_append (owed texts texts' : List String) :
    pay owed (texts ++ texts')
      = pay owed texts ++ (if areBlank texts then pay owed texts' else texts') := by
  induction texts with
  | nil => rfl
  | cons text rest ih =>
    rw [List.cons_append, areBlank_cons]
    cases htext : allBlank text with
    | true =>
      rw [pay_cons_of_blank htext, pay_cons_of_blank htext, ih, Bool.true_and]
      rfl
    | false =>
      rw [pay_cons_of_not_blank htext, pay_cons_of_not_blank htext, Bool.false_and,
        if_neg Bool.false_ne_true, List.append_assoc]
      rfl

/-- Blank texts leave debts as they are. -/
theorem pay_of_blank {texts : List String} (h : areBlank texts = true) (owed : List String) :
    pay owed texts = texts := by
  induction texts with
  | nil => rfl
  | cons text rest ih =>
    rw [areBlank_cons, Bool.and_eq_true_iff] at h
    rw [pay_cons_of_blank h.1, ih h.2]

/-- Texts of which not all are blank begin with blank ones, and then comes one
that is not. -/
theorem exists_first_not_blank {texts : List String} (h : areBlank texts = false) :
    ∃ before first after, texts = before ++ first :: after ∧ areBlank before = true
      ∧ allBlank first = false := by
  induction texts with
  | nil => cases h
  | cons text rest ih =>
    cases htext : allBlank text with
    | false => exact ⟨[], text, rest, rfl, rfl, htext⟩
    | true =>
      rw [areBlank_cons, htext, Bool.true_and] at h
      obtain ⟨before, first, after, rfl, hbefore, hfirst⟩ := ih h
      refine ⟨text :: before, first, after, rfl, ?_, hfirst⟩
      rw [areBlank_cons, htext, hbefore]
      rfl

theorem pay_of_first {before after : List String} {first : String}
    (hbefore : areBlank before = true) (hfirst : allBlank first = false) (owed : List String) :
    pay owed (before ++ first :: after) = before ++ (owed ++ first :: after) := by
  rw [pay_append, pay_of_blank hbefore, if_pos hbefore, pay_cons_of_not_blank hfirst]

/-- Paying does not make texts blank, nor is anything paid by blank ones. -/
@[simp] theorem areBlank_pay (owed texts : List String) :
    areBlank (pay owed texts) = areBlank texts := by
  cases h : areBlank texts with
  | true => rw [pay_of_blank h, h]
  | false =>
    obtain ⟨before, first, after, rfl, hbefore, hfirst⟩ := exists_first_not_blank h
    rw [pay_of_first hbefore hfirst]
    simp [areBlank_append, hfirst]

end Text

-- ============================================================== silence

namespace LoopFrame

theorem owed_of_applied {f : LoopFrame} (h : f.applied = true) : f.owed = [] := by
  unfold owed
  rw [if_pos h]

theorem owed_silence (f : LoopFrame) : f.silence.owed = [] := by
  unfold owed silence
  simp

end LoopFrame

namespace Context

open Text (areBlank pay)

variable {c d e : Context}

theorem owedSeparators_eq_nil (h : ∀ f ∈ c.frames, f.owed = []) : c.owedSeparators = [] := by
  unfold owedSeparators
  rw [List.flatMap_eq_nil_iff]
  intro f hf
  exact h f (List.mem_reverse.mp hf)

@[simp] theorem owedSeparators_silence (c : Context) : c.silence.owedSeparators = [] := by
  refine owedSeparators_eq_nil fun f hf => ?_
  obtain ⟨g, -, rfl⟩ := List.mem_map.mp hf
  exact g.owed_silence

@[simp] theorem silence_silence (c : Context) : c.silence.silence = c.silence := by
  unfold silence
  rw [List.map_map]
  rfl

theorem owedSeparators_settled (h : c.frames = settle d.frames) : c.owedSeparators = [] := by
  refine owedSeparators_eq_nil fun f hf => ?_
  rw [h] at hf
  obtain ⟨g, -, rfl⟩ := List.mem_map.mp hf
  exact LoopFrame.owed_of_applied rfl

@[simp] theorem settle_settle (frames : List LoopFrame) :
    settle (settle frames) = settle frames := by
  unfold settle
  rw [List.map_map]
  rfl

/-- The loops around after texts have been written. -/
def after (frames : List LoopFrame) (texts : List String) : List LoopFrame :=
  if areBlank texts then frames else settle frames

@[simp] theorem length_after (frames : List LoopFrame) (texts : List String) :
    (after frames texts).length = frames.length := by
  unfold after settle
  cases areBlank texts <;> simp

/-- Where nothing was owed, nothing is owed after any texts. -/
theorem owedSeparators_after (hc : c.owedSeparators = []) {texts : List String}
    (hd : d.frames = after c.frames texts) : d.owedSeparators = [] := by
  unfold after at hd
  cases hblank : areBlank texts with
  | true =>
    rw [hblank, if_pos rfl] at hd
    unfold owedSeparators at hc ⊢
    rw [hd, hc]
  | false =>
    rw [hblank, if_neg Bool.false_ne_true] at hd
    exact owedSeparators_settled hd

/-- The context to which an action comes, if from silence it comes to the
second. -/
def resume (c e : Context) : Context :=
  { e with
    fragments := c.fragments ++ pay c.owedSeparators e.fragments
    frames := after c.frames e.fragments }

@[simp] theorem fragments_resume (c e : Context) :
    (c.resume e).fragments = c.fragments ++ pay c.owedSeparators e.fragments := rfl

@[simp] theorem frames_resume (c e : Context) :
    (c.resume e).frames = after c.frames e.fragments := rfl

/-- What the action has come to from silence. -/
def ResumedFrom (c e : Context) : Prop := e.frames = after c.silence.frames e.fragments

theorem ResumedFrom.silence_frames (h : ResumedFrom c e) :
    e.frames.map LoopFrame.silence = c.frames.map LoopFrame.silence := by
  have hsilence : c.silence.frames.map LoopFrame.silence = c.frames.map LoopFrame.silence :=
    congrArg Context.frames (silence_silence c)
  rw [h]
  unfold after
  by_cases hblank : areBlank e.fragments = true
  · rw [if_pos hblank, hsilence]
  · rw [if_neg hblank, silence_settle, hsilence]

/-- Nothing is owed after silence. -/
theorem ResumedFrom.owedSeparators (h : ResumedFrom c e) : e.owedSeparators = [] :=
  owedSeparators_after (owedSeparators_silence c) h

/-- Apart from the text, an action comes to what it comes to from silence. -/
theorem ResumedFrom.silence_resume (h : ResumedFrom c e) : (c.resume e).silence = e.silence := by
  have hframes := h.silence_frames
  unfold resume silence after
  by_cases hblank : areBlank e.fragments = true
  · simp only [hblank, if_true, hframes]
  · simp only [hblank, if_false, Bool.false_eq_true, silence_settle, hframes]

/-- What is still owed when the action is over. -/
theorem owedSeparators_resume (c e : Context) :
    (c.resume e).owedSeparators = if areBlank e.fragments then c.owedSeparators else [] := by
  by_cases hblank : areBlank e.fragments = true
  · unfold resume after owedSeparators
    simp only [hblank, if_true]
  · rw [if_neg hblank]
    refine owedSeparators_settled (d := c) ?_
    unfold resume after
    simp only [hblank, if_false, Bool.false_eq_true]

/-- Two actions one after the other come to what the second comes to after the
first. -/
theorem ResumedFrom.resume_resume (h : ResumedFrom c d) (e : Context) :
    (c.resume d).resume e = c.resume (d.resume e) := by
  have hframes : after (after c.frames d.fragments) e.fragments
      = after c.frames (d.fragments ++ e.fragments) := by
    unfold after
    rw [Text.areBlank_append]
    cases areBlank d.fragments <;> cases areBlank e.fragments <;> simp
  have htext : c.fragments ++ pay c.owedSeparators d.fragments
        ++ pay (c.resume d).owedSeparators e.fragments
      = c.fragments ++ pay c.owedSeparators (d.fragments ++ e.fragments) := by
    rw [owedSeparators_resume, Text.pay_append, List.append_assoc]
    cases areBlank d.fragments <;> simp
  unfold resume at htext ⊢
  simp only [h.owedSeparators, Text.pay_none, hframes, htext]

end Context

namespace Render

open Context (ResumedFrom)
open Text (areBlank pay)
open Template (Node Piece LoopHead Bind)

variable {α β : Type} {s : Setting} {c d : Context}

-- ============================================================== actions

/-- Begun in a context, the action does what it does from silence, but for the
text that was there and the debts. -/
def ResumesAt (x : Render α) (c : Context) : Prop :=
  outcome x c = ((outcome x c.silence).1, c.resume (outcome x c.silence).2)

/-- The action resumes wherever it begins. -/
def Resumes (x : Render α) : Prop := ∀ c, ResumesAt x c

theorem ResumesAt.resumedFrom {x : Render α} (h : ResumesAt x c.silence) :
    ResumedFrom c (outcome x c.silence).2 := by
  unfold ResumesAt at h
  rw [Context.silence_silence] at h
  have hleft := congrArg (fun out => out.2.frames) h
  exact hleft

theorem resumesAt_bind {x : Render α} {f : α → Render β} (hx : ResumesAt x c)
    (hsilence : ResumesAt x c.silence)
    (hf : ∀ a e, outcome x c.silence = (.ok a, e) →
      ResumesAt (f a) (c.resume e) ∧ ResumesAt (f a) e) : ResumesAt (x >>= f) c := by
  have hfrom := hsilence.resumedFrom
  unfold ResumesAt at hx ⊢
  rcases hrun : outcome x c.silence with ⟨error | a, e⟩
  · rw [hrun] at hx
    rw [outcome_bind_error hx, outcome_bind_error hrun]
  · rw [hrun] at hx hfrom
    obtain ⟨hthere, hhere⟩ := hf a e hrun
    unfold ResumesAt at hthere hhere
    rw [outcome_bind_ok hx, outcome_bind_ok hrun, hthere, hhere, hfrom.silence_resume,
      hfrom.resume_resume]

theorem resumes_bind {x : Render α} {f : α → Render β} (hx : Resumes x)
    (hf : ∀ a, Resumes (f a)) : Resumes (x >>= f) := fun c =>
  resumesAt_bind (hx c) (hx c.silence) fun a _ _ => ⟨hf a _, hf a _⟩

/-- Where nothing was written, nothing is paid. -/
theorem resume_of_no_text {e : Context} (h : e.fragments = []) :
    c.resume e = { e with fragments := c.fragments, frames := c.frames } := by
  unfold Context.resume Context.after
  rw [h]
  simp only [pay, areBlank, List.append_nil, List.all_nil, if_true]

theorem resumes_pure (a : α) : Resumes (pure a) := fun c => by
  unfold ResumesAt
  rw [outcome_pure, outcome_pure, resume_of_no_text rfl]
  rfl

theorem resumes_throw (e : RenderError) : Resumes (throw e : Render α) := fun c => by
  have hthrow : ∀ c, outcome (throw e : Render α) c = (.error e, c) := fun _ => rfl
  unfold ResumesAt
  rw [hthrow, hthrow, resume_of_no_text rfl]
  rfl

theorem resumes_update {f : Context → Context} (hf : ∀ c, c.resume (f c.silence) = f c) :
    Resumes (update f) := fun c => by
  unfold ResumesAt
  rw [outcome_update, outcome_update, hf]

theorem resumes_marks : Resumes marks := fun c => by
  have hmarks : ∀ c, outcome marks c = (.ok (c.matched, c.broke), c) := fun _ => rfl
  unfold ResumesAt
  rw [hmarks, hmarks, resume_of_no_text rfl]
  rfl

theorem resumes_ask (text : String) (answer : Variables → Except EvalError α)
    (blame : EvalError → RenderError) : Resumes (ask text answer blame) := fun c => by
  unfold ResumesAt
  rw [outcome_ask, outcome_ask, resume_of_no_text rfl]
  rfl

/-- What is entered and left again concerns neither text nor loops. -/
theorem resumes_bracket {enter : Context → Context} {leave : Context → Context → Context}
    {x : Render α} (henter : ∀ c, (enter c).silence = enter c.silence)
    (hleave : ∀ c e, leave c ((enter c).resume e) = c.resume (leave c.silence e))
    (hx : Resumes x) : Resumes (bracket enter leave x) := fun c => by
  have hinside := hx (enter c)
  unfold ResumesAt at hinside ⊢
  rw [outcome_bracket, outcome_bracket, hinside, henter, hleave]

/-- The first text that is not blank pays, and the others do not. -/
theorem resumes_append (text : String) : Resumes (append text) := by
  refine resumes_update fun c => ?_
  have howed := Context.owedSeparators_silence c
  unfold Context.append Context.resume Context.after
  cases hblank : Text.allBlank text with
  | true =>
    cases hempty : text.isEmpty with
    | true => simp [Context.silence, pay, areBlank]
    | false => simp [Context.silence, pay, areBlank, hblank]
  | false =>
    rw [Text.isEmpty_eq_false hblank]
    simp only [Bool.false_eq_true, if_false, howed]
    simp [Context.silence, pay, areBlank, hblank]

-- ================================================================= text

theorem resumes_collect (m : Parameter.Mapping) : Resumes (collect s m) := fun c => by
  have hmapping : Context.uniquify c.silence.frames m = Context.uniquify c.frames m :=
    Context.uniquify_silence c.frames m
  have hvalue : s.evaluator (Context.uniquify c.silence.frames m).source.text c.silence.vars
      = s.evaluator (Context.uniquify c.frames m).source.text c.vars :=
    congrArg (fun m => s.evaluator m.source.text c.vars) hmapping
  unfold ResumesAt
  cases hs : s.collectsValues with
  | false =>
    rw [outcome_collect_plain hs, outcome_collect_plain hs, resume_of_no_text rfl, hmapping]
    rfl
  | true =>
    cases hv : s.evaluator (Context.uniquify c.frames m).source.text c.vars with
    | error e =>
      rw [outcome_collect_error hs hv, outcome_collect_error hs (hvalue.trans hv),
        resume_of_no_text rfl, hmapping]
      rfl
    | ok v =>
      rw [outcome_collect_ok hs hv, outcome_collect_ok hs (hvalue.trans hv),
        resume_of_no_text rfl, hmapping]
      rfl

theorem resumes_piece (p : Piece) : Resumes (piece s p) := by
  cases p with
  | literal text => exact resumes_pure text
  | interpolation text =>
    refine resumes_bind (resumes_ask text _ _) fun v => ?_
    cases s.filter with
    | none => exact resumes_pure v.render
    | some filter =>
      cases hf : filter.accepts v.render with
      | true =>
        simp only [hf, if_true]
        exact resumes_pure v.render
      | false =>
        simp only [hf, Bool.false_eq_true, if_false]
        exact resumes_throw _
  | parameter m =>
    intro c
    have hcollect := resumes_collect (s := s) m c
    unfold ResumesAt at hcollect ⊢
    rw [outcome_parameter, outcome_parameter, hcollect]
    rfl

theorem resumes_pieces (ps : List Piece) : Resumes (pieces s ps) := by
  induction ps with
  | nil => exact resumes_pure ""
  | cons p rest ih =>
    exact resumes_bind (resumes_piece p) fun text =>
      resumes_bind ih fun others => resumes_pure (text ++ others)

-- ================================================================ loops

/-- The separator that an iteration owes, if it is not empty. -/
def shown (separator : Option String) : List String := separator.toList.filter fun s => !s.isEmpty

section Iteration

variable {head : LoopHead} {separator : Option String} {key item : Value} {body : Render Unit}

@[simp] theorem owedSeparators_enterElement (c : Context) (head : LoopHead)
    (separator : Option String) (key item : Value) :
    (enterElement c head separator key item).owedSeparators
      = c.owedSeparators ++ shown separator := by
  unfold Context.owedSeparators
  rw [frames_enterElement, List.reverse_cons, List.flatMap_append, List.flatMap_singleton]
  rfl

theorem fragments_resume_enterElement (c e : Context) (head : LoopHead)
    (separator : Option String) (key item : Value) :
    ((enterElement c head separator key item).resume e).fragments
      = c.fragments ++ pay (c.owedSeparators ++ shown separator) e.fragments := by
  rw [Context.fragments_resume, fragments_enterElement, owedSeparators_enterElement]

/-- An iteration begins in the same silence, whatever is owed. -/
theorem sameButText_enterElement (h : Context.SameButText c d) (head : LoopHead)
    (separator separator' : Option String) (key item : Value) :
    Context.SameButText (enterElement c head separator key item)
      (enterElement d head separator' key item) := by
  unfold enterElement
  rw [h.number]
  exact ((h.enter head.item head.index separator separator').putLoopVariable d.iterations
    head.index key).putLoopVariable d.iterations head.item item

theorem outcome_iteration {r : Except RenderError Unit}
    (h : outcome body (enterElement c head separator key item) = (r, d)) :
    outcome (iteration head separator key item body) c
      = (r.map fun _ => d.hasApplied, d.leaveIteration) := by
  have hbody : Traced.Course (Traced.silent body) (enterElement c head separator key item) [] r d :=
    Traced.Course.silent h
  exact (course_iteration hbody).outcome_eq

/-- An iteration counts as having written if any of its texts is not blank. -/
theorem hasApplied_resume (c e : Context) (head : LoopHead) (separator : Option String)
    (key item : Value) :
    ((enterElement c head separator key item).resume e).hasApplied = !areBlank e.fragments := by
  unfold Context.resume Context.after Context.hasApplied
  rw [frames_enterElement]
  cases areBlank e.fragments <;> rfl

/-- What an iteration writes is written for the loops around it too. -/
theorem tail_after_enterElement (c : Context) (head : LoopHead) (separator : Option String)
    (key item : Value) (texts : List String) :
    (Context.after (enterElement c head separator key item).frames texts).tail
      = Context.after c.frames texts := by
  unfold Context.after
  rw [frames_enterElement]
  cases areBlank texts <;> rfl

theorem leaveIteration_resume (c e : Context) (head : LoopHead) (separator : Option String)
    (key item : Value) (hdebts : shown separator = [] ∨ c.owedSeparators = []) :
    ((enterElement c head separator key item).resume e).leaveIteration
      = c.resume ((enterElement c.silence head separator key item).resume e).leaveIteration := by
  have htext : pay (c.owedSeparators ++ shown separator) e.fragments
      = pay c.owedSeparators (pay (shown separator) e.fragments) := by
    rcases hdebts with hnone | hnone
    · rw [hnone, List.append_nil, Text.pay_none]
    · rw [hnone, List.nil_append, Text.pay_none]
  have hinner : ((enterElement c.silence head separator key item).resume e).fragments
      = pay (shown separator) e.fragments := by
    rw [fragments_resume_enterElement, Context.owedSeparators_silence, List.nil_append]
    rfl
  have hafter : Context.after c.frames (pay (shown separator) e.fragments)
      = Context.after c.frames e.fragments := by
    unfold Context.after
    rw [Text.areBlank_pay]
  show ({ e with
      fragments := ((enterElement c head separator key item).resume e).fragments
      frames := (Context.after (enterElement c head separator key item).frames
        e.fragments).tail } : Context).popScope
    = ({ e with
      fragments := c.fragments ++ pay c.owedSeparators
        ((enterElement c.silence head separator key item).resume e).fragments
      frames := Context.after c.frames
        ((enterElement c.silence head separator key item).resume e).fragments } : Context).popScope
  rw [tail_after_enterElement, fragments_resume_enterElement, htext, hinner, hafter]

/-- The debts of an iteration come after those of the loops around, and one of
the two is none. -/
theorem resumesAt_iteration (hbody : Resumes body)
    (hdebts : shown separator = [] ∨ c.owedSeparators = []) :
    ResumesAt (iteration head separator key item body) c := by
  have hthere := hbody (enterElement c head separator key item)
  have hhere := hbody (enterElement c.silence head separator key item)
  unfold ResumesAt at hthere hhere ⊢
  have hsilence : (enterElement c.silence head separator key item).silence
      = (enterElement c head separator key item).silence :=
    sameButText_enterElement (Context.silence_silence c) head separator separator key item
  rw [hsilence] at hhere
  rw [outcome_iteration hthere, outcome_iteration hhere, hasApplied_resume, hasApplied_resume,
    leaveIteration_resume _ _ _ _ _ _ hdebts]

/-- An iteration that counts as having written is one after which not all of
the text is blank. -/
theorem areBlank_iteration (hbody : Resumes body) {applied : Bool} {e : Context}
    (hrun : outcome (iteration head separator key item body) c.silence = (.ok applied, e)) :
    areBlank e.fragments = !applied := by
  have hinside := hbody (enterElement c.silence head separator key item)
  unfold ResumesAt at hinside
  rw [outcome_iteration hinside, hasApplied_resume] at hrun
  obtain ⟨hresult, rfl⟩ := Prod.mk.inj hrun
  rcases hbody : outcome body (enterElement c.silence head separator key item).silence
    with ⟨error | _, e⟩
  · rw [hbody] at hresult
    cases hresult
  · rw [hbody] at hresult
    have happlied : (!areBlank e.fragments) = applied := Except.ok.inj hresult
    show areBlank ((enterElement c.silence head separator key item).resume e).fragments = _
    rw [fragments_resume_enterElement, ← happlied, Bool.not_not]
    exact Text.areBlank_pay _ _

end Iteration

/-- Iterations owe a separator only where nothing else is owed. -/
theorem resumesAt_iterations {head : LoopHead} {body : Render Unit} (hbody : Resumes body)
    (found : List Element) (wrote : Bool) (position : Nat)
    (hdebts : wrote = true → c.owedSeparators = []) :
    ResumesAt (iterations head body wrote position found) c := by
  induction found generalizing c wrote position with
  | nil => exact resumes_pure () c
  | cons element rest ih =>
    rcases hkey : keyAndItem position element with ⟨key, item⟩
    unfold iterations
    simp only [hkey]
    have hfirst : ∀ {d : Context}, (wrote = true → d.owedSeparators = []) →
        ResumesAt (iteration head (if wrote then head.separator else none) key item body) d := by
      intro d hd
      refine resumesAt_iteration hbody ?_
      cases wrote with
      | true => exact .inr (hd rfl)
      | false => exact .inl rfl
    have hsilence := hfirst (d := c.silence) fun _ => c.owedSeparators_silence
    refine resumesAt_bind (hfirst hdebts) hsilence fun applied e hrun => ?_
    have hfrom : ResumedFrom c e := by
      have hfrom := hsilence.resumedFrom
      rw [hrun] at hfrom
      exact hfrom
    refine ⟨ih _ _ fun hwrote => ?_, ih _ _ fun _ => hfrom.owedSeparators⟩
    rw [Context.owedSeparators_resume, areBlank_iteration hbody hrun]
    rcases Bool.or_eq_true_iff.mp hwrote with hwrote | happlied
    · rw [hdebts hwrote, ite_self]
    · rw [happlied]
      rfl

-- ================================================================ nodes

theorem compositional_resumes (s : Setting) :
    Compositional (fun _ : Unit => s) (fun _ => True) fun _ _ x => Resumes (x ()) where
  pure a := resumes_pure a
  bind hx hf := resumes_bind hx hf
  weaken hx := hx
  marks := resumes_marks
  mark breaks := resumes_update fun c => by
    rw [resume_of_no_text rfl]
    rfl
  choice hx := resumes_bracket (fun _ => rfl) (fun _ _ => rfl) hx
  scope hx := resumes_bracket (fun _ => rfl) (fun _ _ => rfl) hx
  append text := resumes_append text
  write ps _ := resumes_bind (resumes_pieces ps) fun text => resumes_append text
  bindVariable b _ := resumes_bind (resumes_ask _ _ _) fun v => resumes_update fun c => by
    rw [resume_of_no_text rfl]
    rfl
  test _ text _ := resumes_ask text _ _
  elements _ _ := resumes_bind (resumes_ask _ _ _) fun found => resumes_pure _
  iterations _ found _ hx c := resumesAt_iterations hx found false 0 fun h => nomatch h

/-- What a node does in any context is told by what it does from silence. -/
theorem resumes_node (s : Setting) (n : Node) : Resumes (n.apply s) :=
  (compositional_resumes s).node [] n fun _ _ => trivial

/-- Whether loops around still owe their separators makes no difference to
what a node does: it comes to the same result and collects the same. It writes
the same text, except that what is owed is inserted before the first of its
texts that is not blank. If there is none, it is still owed. -/
theorem apply_settled (s : Setting) (n : Node) (c : Context) :
    (outcome (n.apply s) c).1
        = (outcome (n.apply s) { c with frames := Context.settle c.frames }).1
      ∧ Context.SameButText (outcome (n.apply s) c).2
        (outcome (n.apply s) { c with frames := Context.settle c.frames }).2
      ∧ ∃ texts, (outcome (n.apply s) { c with frames := Context.settle c.frames }).2.fragments
            = c.fragments ++ texts
          ∧ ((∀ text ∈ texts, Text.allBlank text = true)
              ∧ (outcome (n.apply s) c).2.fragments = c.fragments ++ texts
              ∧ (outcome (n.apply s) c).2.frames = c.frames
            ∨ ∃ before first after, texts = before ++ first :: after
              ∧ (∀ text ∈ before, Text.allBlank text = true) ∧ Text.allBlank first = false
              ∧ (outcome (n.apply s) c).2.fragments
                = c.fragments ++ (before ++ (c.owedSeparators ++ first :: after))
              ∧ (outcome (n.apply s) c).2.frames = Context.settle c.frames) := by
  have hsilence : ({ c with frames := Context.settle c.frames } : Context).silence = c.silence := by
    unfold Context.silence
    rw [Context.silence_settle]
  have hnone : ({ c with frames := Context.settle c.frames } : Context).owedSeparators = [] :=
    Context.owedSeparators_settled rfl
  have hfrom := (resumes_node s n c.silence).resumedFrom
  have hfrom' : ResumedFrom { c with frames := Context.settle c.frames }
      (outcome (n.apply s) c.silence).2 := by
    unfold ResumedFrom at hfrom ⊢
    rw [hsilence]
    exact hfrom
  have hfirst := resumes_node s n c
  have hsecond := resumes_node s n { c with frames := Context.settle c.frames }
  unfold ResumesAt at hfirst hsecond
  rw [hsilence] at hsecond
  rw [hfirst, hsecond]
  generalize (outcome (n.apply s) c.silence).2 = e at hfrom hfrom'
  refine ⟨rfl, hfrom.silence_resume.trans hfrom'.silence_resume.symm, e.fragments, ?_, ?_⟩
  · rw [Context.fragments_resume, hnone, Text.pay_none]
  · cases hblank : areBlank e.fragments with
    | true =>
      refine .inl ⟨List.all_eq_true.mp hblank, ?_, ?_⟩
      · rw [Context.fragments_resume, Text.pay_of_blank hblank]
      · rw [Context.frames_resume, Context.after, if_pos hblank]
    | false =>
      obtain ⟨before, first, after, htexts, hbefore, hfirst⟩ := Text.exists_first_not_blank hblank
      refine .inr ⟨before, first, after, htexts, List.all_eq_true.mp hbefore, hfirst, ?_, ?_⟩
      · rw [Context.fragments_resume, htexts, Text.pay_of_first hbefore hfirst]
      · rw [Context.frames_resume, Context.after, if_neg (Bool.eq_false_iff.mp hblank)]

/-- Two iterations, one within the other, that both owe a separator. -/
def indebted : Context :=
  { Context.start [] with
    frames := [⟨some ",", false, none, none, 1⟩, ⟨some "or", false, none, none, 0⟩] }

/-- A blank text and two words. -/
def threeTexts : Node := .sequence [.text " ", .text "a", .text "b"]

def quietSetting : Setting := ⟨fun _ _ => .ok .null, fun _ => "?", false, none, false⟩

/-- Both separators come before the first word, that of the outer loop first, and
are not owed any more. -/
theorem apply_settled_of_indebted :
    (outcome (threeTexts.apply quietSetting)
        { indebted with frames := Context.settle indebted.frames }).2.fragments = [" ", "a", "b"]
      ∧ (outcome (threeTexts.apply quietSetting) indebted).2.fragments
        = [" ", "or", ",", "a", "b"]
      ∧ (outcome (threeTexts.apply quietSetting) indebted).2.frames
        = Context.settle indebted.frames := by
  have hsettled : (outcome (threeTexts.apply quietSetting)
      { indebted with frames := Context.settle indebted.frames }).2.fragments
        = [" ", "a", "b"] := rfl
  obtain ⟨-, -, texts, htexts, hcases⟩ := apply_settled quietSetting threeTexts indebted
  obtain rfl : [" ", "a", "b"] = texts := hsettled.symm.trans htexts
  rcases hcases with ⟨hblank, -⟩ | ⟨before, first, after, hsplit, hbefore, hfirst, htext, hframes⟩
  · exact absurd (hblank "a" (by simp)) (by decide)
  · refine ⟨hsettled, ?_, hframes⟩
    -- The blank text alone stands before the first word.
    rcases before with - | ⟨blank, - | ⟨word, more⟩⟩
    · obtain ⟨rfl, -⟩ := List.cons.inj hsplit
      exact absurd hfirst (by decide)
    · obtain ⟨rfl, hrest⟩ := List.cons.inj hsplit
      obtain ⟨rfl, rfl⟩ := List.cons.inj hrest
      exact htext
    · obtain ⟨-, hrest⟩ := List.cons.inj hsplit
      obtain ⟨rfl, -⟩ := List.cons.inj hrest
      exact absurd (hbefore "a" (by simp)) (by decide)

end Render

end DynamicSql
