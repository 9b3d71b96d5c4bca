/-
The numbers of iterations, and what is recorded of parameters.

Each iteration of a render takes the next number, so that no two of them have
the same one, also if they are iterations of different loops. The loops
around a moment are iterations that were entered in the course before, or
were there when it began. And the mappings that a course leaves behind are
those of the parameters collected in it, in their order, each as the loops
around it rename it: nothing else records a parameter.

All this is one statement about courses (`Counted`), since its parts are
passed on together from step to step.
-/
import DynamicSql.Proofs.Render.Course

namespace DynamicSql.Render

open Template (Node LoopHead)

variable {c d e : Context} {t t' : List Moment} {succeeded : Bool}

/-- The iterations entered in a course, each with its loop and its number. -/
def entered (moments : List Moment) : List (LoopHead × Nat) :=
  moments.filterMap fun
    | .iteration head ctx => some (head, ctx.iterations)
    | _ => none

@[simp] theorem entered_append (t t' : List Moment) :
    entered (t ++ t') = entered t ++ entered t' := List.filterMap_append

@[simp] theorem collected_append (t t' : List Moment) :
    collected (t ++ t') = collected t ++ collected t' := List.filterMap_append

/-- The mapping of a collected parameter as it is recorded. -/
def recorded (p : Parameter.Mapping × Context) : Parameter.Mapping :=
  Context.uniquify p.2.frames p.1

/-- The iteration has been entered in the course, as one of a loop with the
same variables. -/
def EnteredIn (t : List Moment) (f : LoopFrame) : Prop :=
  ∃ head, (head, f.unique) ∈ entered t ∧ head.names = f.names

theorem EnteredIn.append_left {f : LoopFrame} (h : EnteredIn t f) (t' : List Moment) :
    EnteredIn (t ++ t') f := by
  obtain ⟨head, hmem, hnames⟩ := h
  refine ⟨head, ?_, hnames⟩
  rw [entered_append]
  exact List.mem_append_left _ hmem

theorem EnteredIn.append_right {f : LoopFrame} (h : EnteredIn t' f) (t : List Moment) :
    EnteredIn (t ++ t') f := by
  obtain ⟨head, hmem, hnames⟩ := h
  refine ⟨head, ?_, hnames⟩
  rw [entered_append]
  exact List.mem_append_right _ hmem

/-- How a course numbers iterations and records parameters. -/
structure Counted (c : Context) (t : List Moment) (succeeded : Bool) (d : Context) : Prop
    extends SameLoops c d where
  /-- The numbers are given one after the other. -/
  numbers : (entered t).map Prod.snd = List.range' c.iterations (d.iterations - c.iterations)
  /-- A course that fails may have lost the mapping of its last parameter. -/
  mappings : succeeded = true → d.mappings = c.mappings ++ (collected t).map recorded
  /-- An iteration around a moment was around the whole course, or it was
  entered in it. -/
  origin : ∀ m ∈ t, ∀ f ∈ m.ctx.frames,
    (∃ g ∈ c.frames, g.names = f.names ∧ g.unique = f.unique) ∨ EnteredIn t f

namespace Counted

/-- Nothing is entered and nothing recorded. -/
theorem of_eq (hframes : d.frames.map LoopFrame.silence = c.frames.map LoopFrame.silence)
    (hiterations : d.iterations = c.iterations) (hmappings : d.mappings = c.mappings) :
    Counted c [] succeeded d where
  toSameLoops := .of_eq hframes hiterations
  numbers := by
    rw [hiterations, Nat.sub_self]
    rfl
  mappings _ := hmappings.trans (List.append_nil _).symm
  origin _ hm := nomatch hm

theorem trans (h : Counted c t true d) (h' : Counted d t' succeeded e) :
    Counted c (t ++ t') succeeded e where
  toSameLoops := h.toSameLoops.trans h'.toSameLoops
  numbers := by
    have hle := h.iterations
    have hle' := h'.iterations
    rw [entered_append, List.map_append, h.numbers, h'.numbers]
    have hmiddle : d.iterations = c.iterations + (d.iterations - c.iterations) := by omega
    have hwhole : e.iterations - c.iterations
        = (d.iterations - c.iterations) + (e.iterations - d.iterations) := by omega
    rw [hwhole, ← List.range'_append_1, ← hmiddle]
  mappings hs := by
    rw [h'.mappings hs, h.mappings rfl, collected_append, List.map_append, List.append_assoc]
  origin m hm f hf := by
    rcases List.mem_append.mp hm with hm | hm
    · exact (h.origin m hm f hf).imp_right fun hin => hin.append_left t'
    · rcases h'.origin m hm f hf with ⟨g, hg, hnames, hunique⟩ | hin
      · obtain ⟨g', hg', hnames', hunique'⟩ := LoopFrame.mem_of_silence_eq h.frames hg
        exact Or.inl ⟨g', hg', hnames'.trans hnames, hunique'.trans hunique⟩
      · exact Or.inr (hin.append_right t)

/-- A moment that enters and collects nothing tells nothing. -/
theorem node (h : Counted c t succeeded d) (n : Node) :
    Counted c (.node n c :: t) succeeded d where
  toSameLoops := h.toSameLoops
  numbers := h.numbers
  mappings := h.mappings
  origin m hm f hf := by
    rcases List.mem_cons.mp hm with rfl | hm
    · exact Or.inl ⟨f, hf, rfl, rfl⟩
    · exact h.origin m hm f hf

theorem iteration {head : LoopHead} {separator : Option String} {key item : Value}
    (h : Counted (enterElement c head separator key item) t succeeded d) :
    Counted c (.iteration head c :: t) succeeded d.leaveIteration where
  toSameLoops := h.toSameLoops.iteration
  numbers := by
    have hiterations := h.iterations
    have hnumbers := h.numbers
    rw [iterations_enterElement] at hiterations hnumbers
    have hone : d.iterations - c.iterations = d.iterations - (c.iterations + 1) + 1 := by omega
    show c.iterations :: (entered t).map Prod.snd
      = List.range' c.iterations (d.iterations - c.iterations)
    rw [hone, List.range'_succ, hnumbers]
  mappings hs := by
    have hmappings := h.mappings hs
    rw [mappings_enterElement] at hmappings
    exact hmappings
  origin m hm f hf := by
    rcases List.mem_cons.mp hm with rfl | hm
    · exact Or.inl ⟨f, hf, rfl, rfl⟩
    · rcases h.origin m hm f hf with ⟨g, hg, hnames, hunique⟩ | hin
      · rw [frames_enterElement] at hg
        rcases List.mem_cons.mp hg with rfl | hg
        · refine Or.inr ⟨head, ?_, hnames⟩
          rw [← hunique]
          exact List.mem_cons_self ..
        · exact Or.inl ⟨g, hg, hnames, hunique⟩
      · exact Or.inr (hin.append_right [.iteration head c])

end Counted

theorem stepwise_counted :
    Stepwise (fun _ => True) fun _ c t succeeded d => Counted c t succeeded d where
  stay _ := .of_eq rfl rfl rfl
  trans h h' := h.trans h'
  ask _ _ := .of_eq rfl rfl rfl
  mark _ := .of_eq rfl rfl rfl
  append {_ c} text := by
    have hsilence := Context.silence_append c text
    exact .of_eq (congrArg Context.frames hsilence :) (congrArg Context.iterations hsilence :)
      (Context.mappings_append c text)
  put _ _ := .of_eq rfl rfl rfl
  addValue _ := .of_eq rfl rfl rfl
  collect {_ c d m} _ _ h := by
    refine ⟨⟨h.frames, h.iterations⟩, h.numbers, fun _ => ?_, fun moment hm f hf => ?_⟩
    · show d.mappings ++ [Context.uniquify c.frames m] = _
      rw [h.mappings rfl]
      exact congrArg (· ++ _) (List.append_nil _)
    · rw [List.mem_singleton.mp hm] at hf
      exact Or.inl ⟨f, hf, rfl, rfl⟩
  refuse _ h := by
    refine ⟨h.toSameLoops, h.numbers, (fun hs => nomatch hs), fun moment hm f hf => ?_⟩
    rw [List.mem_singleton.mp hm] at hf
    exact Or.inl ⟨f, hf, rfl, rfl⟩
  node n h := h.node n
  choice h := ⟨⟨h.frames, h.iterations⟩, h.numbers, h.mappings, h.origin⟩
  scope h := ⟨⟨h.frames, h.iterations⟩, h.numbers, h.mappings, h.origin⟩
  iteration _ h := h.iteration

/-- Every render numbers its iterations one after the other, and records the
parameters it collects. -/
theorem counted_of_apply {s : Setting} {n : Node} {handled : Bool}
    (h : outcome (n.apply s) c = (.ok handled, d)) :
    Counted c ((n.traced s).trace c) true d := by
  have hcourse := stepwise_counted.course_node (s := s) [] n (fun _ _ => trivial) c
  rw [h] at hcourse
  exact hcourse

end DynamicSql.Render
