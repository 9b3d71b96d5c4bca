/-
The text of a loop.

A loop writes its opening text, then what its body writes for each element,
then its closing text. The separator goes before the first text that is not
blank of an element, if anything that is not blank was written for an element
before (`joined`). So an element for which nothing but blank text is written
has no separator on either side, and there is one separator less than there
are elements with text (`length_joined`).

# What the body writes

What is written for an element is told by the body alone: it is what the body
writes in the context in which the iteration begins, when the iteration owes
no separator (`iterationText`). Whether it does owe one, and whether that is
paid, makes no other difference (`DynamicSql.Proofs.Render.Debts`).
-/
import DynamicSql.Proofs.Render.Debts
import DynamicSql.Proofs.Render.OutputOnly

namespace DynamicSql.Render

open Text (areBlank pay)
open Template (Node LoopHead)

variable {α : Type} {s : Setting} {c d : Context}

-- ============================================================== joining

/-- True if not all of the texts are blank. -/
def emits (texts : List String) : Bool := !areBlank texts

/-- The texts of several iterations with the separator between them: it is
inserted before the first text that is not blank, if there is one and if there
was one in an iteration before. -/
def joined (separator : Option String) (blocks : List (List String)) : List String :=
  blocks.zipIdx.flatMap fun (block, k) =>
    if (blocks.take k).any emits then pay (shown separator) block else block

/-- The same, told from the front to the back. -/
def joinedFrom (separator : Option String) : (wrote : Bool) → List (List String) → List String
  | _, [] => []
  | wrote, block :: rest =>
    (if wrote then pay (shown separator) block else block)
      ++ joinedFrom separator (wrote || emits block) rest

theorem joinedFrom_any (separator : Option String) (before blocks : List (List String)) :
    joinedFrom separator (before.any emits) blocks
      = (blocks.zipIdx before.length).flatMap fun (block, k) =>
        if ((before ++ blocks).take k).any emits then pay (shown separator) block else block := by
  induction blocks generalizing before with
  | nil => rfl
  | cons block rest ih =>
    have hrest := ih (before ++ [block])
    rw [List.any_append, List.any_cons, List.any_nil, Bool.or_false, List.length_append,
      List.length_singleton, List.append_assoc, List.singleton_append] at hrest
    rw [joinedFrom, hrest, List.zipIdx_cons, List.flatMap_cons]
    simp only [List.take_left]

theorem joined_eq (separator : Option String) (blocks : List (List String)) :
    joined separator blocks = joinedFrom separator false blocks :=
  (joinedFrom_any separator [] blocks).symm

theorem length_pay (owed texts : List String) :
    (pay owed texts).length = texts.length + if emits texts then owed.length else 0 := by
  unfold emits
  cases h : areBlank texts with
  | true => rw [Text.pay_of_blank h, Bool.not_true, if_neg Bool.false_ne_true, Nat.add_zero]
  | false =>
    obtain ⟨before, first, after, rfl, hbefore, hfirst⟩ := Text.exists_first_not_blank h
    rw [Text.pay_of_first hbefore hfirst]
    simp only [List.length_append, List.length_cons, Bool.not_false, if_true]
    omega

theorem length_joinedFrom (separator : Option String) (wrote : Bool)
    (blocks : List (List String)) :
    (joinedFrom separator wrote blocks).length
      = blocks.flatten.length
        + (blocks.countP emits - if wrote then 0 else 1) * (shown separator).length := by
  induction blocks generalizing wrote with
  | nil => cases wrote <;> simp [joinedFrom]
  | cons block rest ih =>
    rw [joinedFrom, List.length_append, ih, List.flatten_cons, List.length_append,
      List.countP_cons]
    cases wrote with
    | true =>
      simp only [if_true, length_pay, Bool.true_or]
      cases emits block with
      | true =>
        simp only [if_true, Nat.sub_zero, Nat.add_mul, Nat.one_mul]
        omega
      | false =>
        simp only [Bool.false_eq_true, if_false, Nat.add_zero]
        omega
    | false =>
      cases emits block with
      | true =>
        simp only [Bool.false_eq_true, if_false, if_true, Bool.or_true, Nat.sub_zero,
          Nat.add_sub_cancel]
        omega
      | false =>
        simp only [Bool.false_eq_true, if_false, Bool.or_false, Nat.add_zero]
        omega

/-- One separator less than there are iterations that write something. -/
theorem length_joined (separator : Option String) (blocks : List (List String)) :
    (joined separator blocks).length
      = blocks.flatten.length + (blocks.countP emits - 1) * (shown separator).length := by
  rw [joined_eq, length_joinedFrom]
  rfl

-- ============================================================ iterations

/-- What the body of a loop writes for the element at a position, in an
iteration that owes no separator. -/
def iterationText (head : LoopHead) (body : Render α) (begun : Context) (element : Element)
    (position : Nat) : List String :=
  (outcome body (enterElement begun head none (keyAndItem position element).1
    (keyAndItem position element).2)).2.fragments.drop begun.fragments.length

/-- What is written for each of the elements from a position on, given the
contexts in which their iterations begin. -/
def iterationTexts (head : LoopHead) (body : Render α) (begun : List Context)
    (found : List Element) (position : Nat) : List (List String) :=
  (begun.zip (found.zipIdx position)).map fun (c, element, k) =>
    iterationText head body c element k

/-- Handing on no result makes no difference to the text. -/
theorem iterationTexts_ignoring (head : LoopHead) (body : Node) (begun : List Context)
    (found : List Element) (position : Nat) :
    iterationTexts head (Traced.ignoring (body.traced s)).run begun found position
      = iterationTexts head (body.apply s) begun found position := by
  have hcontext : ∀ c, (outcome (Traced.ignoring (body.traced s)).run c).2
      = (outcome (body.apply s) c).2 := by
    intro c
    show (outcome ((body.traced s).run >>= fun _ => pure ()) c).2 = _
    rw [Node.run_traced, outcome_bind]
    rcases outcome (body.apply s) c with ⟨error | handled, d⟩ <;> rfl
  unfold iterationTexts iterationText
  simp only [hcontext]

section Iterations

variable {head : LoopHead} {separator : Option String} {key item : Value}

/-- An iteration writes the text of its body, with the separator that it
owes. -/
theorem text_of_iteration {body : Render Unit} (hbody : Resumes body)
    (hc : c.owedSeparators = []) {applied : Bool}
    (hrun : outcome (iteration head separator key item body) c = (.ok applied, d)) :
    ∃ texts, (outcome body (enterElement c head none key item)).2.fragments
          = c.fragments ++ texts
      ∧ d.fragments = c.fragments ++ pay (shown separator) texts
      ∧ applied = emits texts ∧ d.frames = Context.after c.frames texts := by
  have hthere := hbody (enterElement c head separator key item)
  have hnone := hbody (enterElement c head none key item)
  have hsilence : (enterElement c head separator key item).silence
      = (enterElement c head none key item).silence :=
    sameButText_enterElement rfl head separator none key item
  unfold ResumesAt at hthere hnone
  rw [hsilence] at hthere
  generalize outcome body (enterElement c head none key item).silence = out at hthere hnone
  obtain ⟨r, e⟩ := out
  rw [outcome_iteration hthere, hasApplied_resume] at hrun
  obtain ⟨hresult, rfl⟩ := Prod.mk.inj hrun
  refine ⟨e.fragments, ?_, ?_, ?_, tail_after_enterElement c head separator key item e.fragments⟩
  · rw [hnone, fragments_resume_enterElement, hc]
    exact congrArg (c.fragments ++ ·) (Text.pay_none e.fragments)
  · show ((enterElement c head separator key item).resume e).fragments = _
    rw [fragments_resume_enterElement, hc, List.nil_append]
  · cases r with
    | error error => cases hresult
    | ok u => exact (Except.ok.inj hresult).symm

/-- The iterations of a loop write what their body writes, with the separator
between them. -/
theorem text_of_iterations {body : Traced Unit} (hbody : LoopBody body)
    (hresumes : Resumes body.run) {found : List Element} {wrote : Bool} {position : Nat}
    {t : List Moment} (hc : c.owedSeparators = [])
    (hrun : Traced.Course (Traced.iterations head body wrote position found) c t (.ok ()) d) :
    (starts c.frames.length t).length = found.length
      ∧ d.fragments = c.fragments ++ joinedFrom head.separator wrote
        (iterationTexts head body.run (starts c.frames.length t) found position)
      ∧ d.owedSeparators = [] := by
  induction found generalizing c t wrote position with
  | nil =>
    obtain ⟨-, rfl⟩ := Prod.mk.inj hrun.outcome_eq
    obtain rfl := hrun.trace_eq
    refine ⟨rfl, ?_, hc⟩
    exact (List.append_nil _).symm
  | cons element rest ih =>
    obtain ⟨applied, e, t₁, t₂, hfirst, hrest, rfl⟩ := hrun.of_bind_ok
    change Traced.Course (Traced.iteration head (if wrote then head.separator else none)
      (keyAndItem position element).1 (keyAndItem position element).2 body) c t₁ _ e at hfirst
    obtain ⟨texts, htexts, he, happlied, hframes⟩ := text_of_iteration hresumes hc hfirst.outcome_eq
    have hlength : e.frames.length = c.frames.length := by
      rw [hframes, Context.length_after]
    have hbegun : starts c.frames.length (t₁ ++ t₂) = c :: starts e.frames.length t₂ := by
      rw [hlength, starts_append, ← hfirst.trace_eq, starts_iteration hbody]
      rfl
    obtain ⟨hcount, hd, howed⟩ := ih (Context.owedSeparators_after hc hframes) hrest
    rw [hbegun]
    refine ⟨congrArg (· + 1) hcount, ?_, howed⟩
    have hfirstText : iterationText head body.run c element position = texts := by
      unfold iterationText
      rw [htexts, List.drop_left]
    have hblocks : iterationTexts head body.run (c :: starts e.frames.length t₂)
          (element :: rest) position
        = texts :: iterationTexts head body.run (starts e.frames.length t₂) rest
          (position + 1) := by
      rw [← hfirstText]
      rfl
    have hpaid : pay (shown (if wrote then head.separator else none)) texts
        = if wrote then pay (shown head.separator) texts else texts := by
      cases wrote with
      | true => rfl
      | false => exact Text.pay_none texts
    rw [hd, he, hblocks, joinedFrom, ← happlied, hpaid, List.append_assoc]

end Iterations

-- ================================================================ loops

/-- Where nothing is owed, an optional text is written as it is, if it is
there and not empty. -/
theorem written_of_none_owed (hc : c.owedSeparators = []) (text : Option String) :
    (written c text).fragments = c.fragments ++ shown text
      ∧ (written c text).owedSeparators = []
      ∧ (written c text).frames.length = c.frames.length := by
  cases text with
  | none => exact ⟨(List.append_nil _).symm, hc, rfl⟩
  | some text =>
    have hframes : (c.append text).frames = Context.after c.frames [text] := by
      unfold Context.append Context.after areBlank
      cases hblank : Text.allBlank text <;> cases text.isEmpty <;> simp [hblank]
    refine ⟨?_, Context.owedSeparators_after hc hframes, ?_⟩
    · show (c.append text).fragments = c.fragments ++ shown (some text)
      unfold Context.append shown
      cases hblank : Text.allBlank text <;> cases hempty : text.isEmpty <;> simp [hempty, hc]
    · show (c.append text).frames.length = _
      rw [hframes, Context.length_after]

/-- A loop that is applied where no loop around owes anything, and succeeds,
has found a collection. Without elements it writes nothing. Otherwise it
writes its opening text, what its body writes for each of the elements with
the separator between them, and its closing text; and of the separators it
writes one less than there are elements for which anything is written. -/
theorem apply_foreach_text {head : LoopHead} {body : Node} {handled : Bool}
    (h : outcome ((Node.foreach head body).apply s) c = (.ok handled, d))
    (hc : c.owedSeparators = []) :
    ∃ found, s.evaluator.collection (head.nullable.getD s.foreachNullable) head.collection c.vars
        = .ok found
      ∧ (found.getD [] = [] → d.fragments = c.fragments)
      ∧ (found.getD [] ≠ [] → ∀ begun blocks,
        begun = starts c.frames.length (((Node.foreach head body).traced s).trace c) →
          blocks = iterationTexts head (body.apply s) begun (found.getD []) 0 →
            begun.length = (found.getD []).length
              ∧ d.fragments = c.fragments ++ (shown head.opening
                ++ (joined head.separator blocks ++ shown head.closing))
              ∧ (joined head.separator blocks).length = blocks.flatten.length
                + (blocks.countP emits - 1) * (shown head.separator).length) := by
  have hbody : Resumes (Traced.ignoring (body.traced s)).run := by
    show Resumes ((body.traced s).run >>= fun _ => pure ())
    rw [Node.run_traced]
    exact resumes_bind (resumes_node s body) fun _ => resumes_pure ()
  rcases course_loop s head (Traced.ignoring (body.traced s)) c with
    ⟨error, hfails⟩ | ⟨found, hfound, ⟨hnone, hnothing⟩ | ⟨hsome, hruns⟩⟩
  · rw [(foreach_of_course hfails).1] at h
    cases h
  · rw [(foreach_of_course hnothing).1] at h
    obtain ⟨-, rfl⟩ := Prod.mk.inj h
    exact ⟨found, hfound, fun _ => rfl, fun hsome => absurd hnone hsome⟩
  · refine ⟨found, hfound, fun hnone => absurd hnone hsome, fun _ begun blocks hbegun hblocks => ?_⟩
    obtain ⟨hopening, howed, hlength⟩ :=
      written_of_none_owed (c := c.ask head.collection) hc head.opening
    obtain ⟨t, r, e, hrun⟩ : ∃ t r e, Traced.Course (Traced.iterations head
        (Traced.ignoring (body.traced s)) false 0 (found.getD []))
        (written (c.ask head.collection) head.opening) t r e :=
      ⟨_, _, _, Traced.Course.intro _ _⟩
    have hloop := foreach_of_course (hruns t r e hrun)
    cases r with
    | error error =>
      rw [hloop.1] at h
      cases h
    | ok u =>
      rw [hloop.1] at h
      obtain ⟨-, rfl⟩ := Prod.mk.inj h
      have hsame : begun = starts (written (c.ask head.collection) head.opening).frames.length t := by
        rw [hbegun, hloop.2, hlength]
        rfl
      obtain ⟨hcount, htext, hnothing⟩ :=
        text_of_iterations (loopBody_node s body) hbody howed hrun
      rw [← hsame] at hcount htext
      rw [iterationTexts_ignoring, ← hblocks, ← joined_eq, hopening] at htext
      refine ⟨hcount, ?_, length_joined head.separator blocks⟩
      show (written e head.closing).fragments = _
      rw [(written_of_none_owed hnothing head.closing).1, htext, List.append_assoc, List.append_assoc]
      rfl

/-- A loop that writes a text for those of its elements that are true. -/
def gapLoop : Node :=
  .foreach ⟨"xs", none, some "x", none, some "(", some ")", some ",", none⟩
    (.conditional ⟨.if_, "x", ⟨false, .text "A"⟩, none⟩ [] none)

/-- A setting in which the second of three elements is not. -/
def gapSetting : Setting :=
  ⟨fun text vars => if text = "xs" then .ok (.list [.bool true, .bool false, .bool true])
    else .ok ((vars text).getD .null), fun _ => "?", false, none, false⟩

/-- The element for which nothing is written has no separator. -/
theorem apply_foreach_text_of_gap :
    ∃ d, outcome (gapLoop.apply gapSetting) (Context.start []) = (.ok true, d)
      ∧ d.fragments = shown (some "(") ++ (joined (some ",") [["A"], [], ["A"]] ++ shown (some ")"))
      ∧ d.fragments = ["(", "A", ",", "A", ")"] := by
  obtain ⟨d, hrun⟩ : ∃ d, outcome (gapLoop.apply gapSetting) (Context.start []) = (.ok true, d) :=
    ⟨_, rfl⟩
  obtain ⟨found, hfound, -, htext⟩ := apply_foreach_text hrun rfl
  obtain rfl : some [.item (.bool true), .item (.bool false), .item (.bool true)] = found :=
    Except.ok.inj hfound
  obtain ⟨-, hfragments, -⟩ := htext (List.cons_ne_nil _ _) _ _ rfl rfl
  refine ⟨d, hrun, hfragments, ?_⟩
  rw [hfragments]
  rfl

end DynamicSql.Render
