/-
What the choices of a script run.

At every point of every render a choice runs what its table says
(`DynamicSql.Proofs.Render.Choice`). The table asks that no case has ended the
choice in which it stands; no case has, at no node of no render, since a
choice that was ended is over.
-/
import DynamicSql.Proofs.Render.Choice
import DynamicSql.Proofs.Script

namespace DynamicSql.Script

open Render (outcome ChoiceTable RunsSteps)

variable {s : Script} {E : Evaluator} {arguments : Arguments}

theorem broke_textStart (s : Script) (arguments : Arguments) :
    (s.textStart arguments).broke = false := by
  unfold textStart
  split <;> rfl

/-- Wherever a render applies a node, no case has ended the choice around it,
and wherever it applies a choice, it runs what the table says. -/
theorem course_choices (s : Script) (E : Evaluator) (arguments : Arguments) :
    (∀ n c, .node n c ∈ s.course E arguments → c.broke = false)
      ∧ ∀ cases otherwise span c, .node (.choose cases otherwise span) c ∈ s.course E arguments →
        ChoiceTable (s.textSetting E) cases otherwise span c := by
  have hbroke : ∀ n c, .node n c ∈ s.course E arguments → c.broke = false := by
    intro n c hmem
    have hleaves := Render.leavesMarks_node (s.textSetting E) s.root (s.textStart arguments)
    exact hleaves.moments (broke_textStart s arguments) _ hmem
  refine ⟨hbroke, fun cases otherwise span c hmem => ?_⟩
  exact Render.choiceTable (s.textSetting E) cases otherwise span (hbroke _ c hmem)

/-- A choice of three cases, of which the second does not end it. -/
def threeCases : List Template.Case :=
  [⟨"a", true, ⟨false, .text "A"⟩, none⟩, ⟨"b", false, ⟨false, .text "B"⟩, none⟩,
    ⟨"c", true, ⟨false, .text "C"⟩, none⟩]

/-- The script of that choice. -/
def threeScript : Script :=
  ⟨.sequence [.choose threeCases (some ⟨false, .text "D"⟩) none], Options.standard, none,
    Evaluator.standard, none⟩

/-- An evaluator by which the test of the second case alone holds. -/
def onlyB : Evaluator := fun text _ => .ok (.bool (text == "b"))

/-- Taking the second case runs it and the third, and asks for neither the
third test nor the last body. -/
theorem course_choices_of_three :
    ∃ c, .node (.choose threeCases (some ⟨false, .text "D"⟩) none) c ∈ threeScript.course onlyB []
      ∧ c.broke = false
      ∧ RunsSteps (threeScript.textSetting onlyB)
        (.choose threeCases (some ⟨false, .text "D"⟩) none) c ["a", "b"] true
        [(Template.Body.mk false (.text "B")).traced (threeScript.textSetting onlyB),
          Render.Traced.silent (Render.update fun ctx => ctx.mark false),
          (Template.Body.mk false (.text "C")).traced (threeScript.textSetting onlyB)]
      ∧ threeScript.renderWith onlyB [] = .ok ⟨"B C", none⟩ := by
  obtain ⟨hbroke, htable⟩ := course_choices threeScript onlyB []
  have hmem : .node (.choose threeCases (some ⟨false, .text "D"⟩) none) (Context.start [])
      ∈ threeScript.course onlyB [] := List.mem_cons_of_mem _ (List.mem_cons_self ..)
  refine ⟨_, hmem, hbroke _ _ hmem, ?_, ?_⟩
  · refine (htable _ _ _ _ hmem).first rfl [⟨"a", true, ⟨false, .text "A"⟩, none⟩] _ _ rfl ?_ rfl
    intro k hk
    rw [List.mem_singleton.mp hk]
    rfl
  · rfl

end DynamicSql.Script
