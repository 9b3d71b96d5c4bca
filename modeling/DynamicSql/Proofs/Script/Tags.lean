/-
The tags of a script leave nothing behind but output.

What was proved of chains, choices and loops asks that every branch that binds
anything has a scope of its own, and that the scopes in sight are a stack.
Building a script sees to the first, and a render to the second, at every
point that it comes to.

# What this means for bindings

A variable bound in a branch is not in sight after the branch, and one bound
in an iteration neither after it nor in the next one: branches leave the
variables as they found them, and all iterations of a loop begin with those
with which the loop began.
-/
import DynamicSql.Proofs.Render.OutputOnly
import DynamicSql.Proofs.Script
import DynamicSql.Proofs.Template.Built

namespace DynamicSql.Script

open Render (outcome starts OutputOnly)

variable {s : Script} {options : Options} {content : List Template.Tree}
  {E : Evaluator} {arguments : Arguments}

/-- At every moment of a render the scopes in sight are a stack. -/
theorem exists_stacked_of_mem_course {m : Render.Moment} (hm : m ∈ s.course E arguments) :
    ∃ stack, m.ctx.Stacked stack := by
  have htopped := Render.stepwise_topped_any.follows_node (s := s.textSetting E) [] s.root
    (fun _ _ => trivial) (s.textStart arguments)
  have hstart : ∃ stack, (s.textStart arguments).Stacked stack := by
    unfold textStart
    split
    · exact ⟨_, Context.stacked_start arguments⟩
    · exact ⟨_, Context.stacked_start []⟩
  obtain ⟨stack, hstack⟩ := hstart
  exact htopped.moments hstack m hm

/-- In a script that was built, every branch has a scope of its own exactly if
it binds a variable. -/
theorem BuiltFrom.ownScope_eq (hs : s.BuiltFrom options content) {n : Template.Node}
    (hn : n ∈ s.root.within) : ∀ b ∈ n.bodies, b.ownScope = b.containsBind := by
  obtain ⟨nodes, hnodes, hroot⟩ := hs.root_eq
  rw [hroot, Template.Node.within, List.mem_cons] at hn
  rcases hn with rfl | hn
  · intro b hb
    cases hb
  · obtain ⟨top, htop, hn⟩ := Template.Node.mem_allWithin.mp hn
    exact Template.every_buildChildren Template.buildable_ownsBinds hnodes top htop n hn

/-- Any chain, choice or loop of a script, applied at any point of a render,
does nothing but output, whether it succeeds or fails. So does each of the
bodies between which it chooses, and each iteration of a loop begins with
nothing but the output of those before it. -/
theorem build_course_outputOnly (hbuild : build options content = .ok s) {n : Template.Node}
    (hn : n ∈ s.root.within) (hcontrol : n.isControl = true) {m : Render.Moment}
    (hm : m ∈ s.course E arguments) :
    OutputOnly m.ctx (outcome (n.apply (s.textSetting E)) m.ctx).2
      ∧ (∀ b ∈ n.bodies, OutputOnly m.ctx (outcome (b.apply (s.textSetting E)) m.ctx).2)
      ∧ ∀ head body, n = .foreach head body →
          ∀ e ∈ starts m.ctx.frames.length ((n.traced (s.textSetting E)).trace m.ctx),
            OutputOnly m.ctx e := by
  have hs : s.BuiltFrom options content := build_eq_ok.mp hbuild
  have hbodies := hs.ownScope_eq hn
  obtain ⟨stack, hstack⟩ := exists_stacked_of_mem_course hm
  refine ⟨?_, fun b hb => ?_, ?_⟩
  · rw [← Template.Node.run_traced]
    exact (Render.onlyWrites_node hcontrol hbodies).outputOnly hstack
  · rw [← Template.Body.run_traced]
    exact (Render.onlyWrites_body (hbodies b hb)).outputOnly hstack
  · rintro head body rfl e he
    exact Render.outputOnly_of_mem_starts hstack he

/-- The loop of the example. -/
def listLoop : Template.Node :=
  .foreach ⟨"xs", none, some "x", none, none, none, some ",", none⟩
    (.placeholders ⟨[.parameter ⟨.property "x", none, []⟩], none⟩)

/-- A loop over two elements: when the second iteration begins, the variable
of the first one is gone. -/
theorem course_outputOnly_of_two :
    ∃ first second : Context,
      starts 0 ((listLoop.traced (listScript.textSetting fun _ _ => .ok (.list [.null, .null]))).trace
          (Context.start [])) = [first, second]
        ∧ second.fragments = ["?"] ∧ second.vars "x" = none
        ∧ OutputOnly (Context.start []) (outcome (listLoop.apply
          (listScript.textSetting fun _ _ => .ok (.list [.null, .null]))) (Context.start [])).2 := by
  have hloop : listLoop ∈ listScript.root.within :=
    List.mem_cons_of_mem _ (List.mem_cons_self ..)
  have hm : .node listLoop (Context.start [])
      ∈ listScript.course (fun _ _ => .ok (.list [.null, .null])) [] :=
    List.mem_cons_of_mem _ (List.mem_cons_self ..)
  obtain ⟨houtput, -, hstarts⟩ := build_course_outputOnly build_listContent hloop rfl hm
  obtain ⟨first, second, hboth, htext⟩ : ∃ first second : Context,
      starts 0 ((listLoop.traced (listScript.textSetting fun _ _ => .ok (.list [.null, .null]))).trace
        (Context.start [])) = [first, second] ∧ second.fragments = ["?"] := ⟨_, _, rfl, rfl⟩
  refine ⟨first, second, hboth, htext, ?_, houtput⟩
  have hsecond := hstarts _ _ rfl second (hboth ▸ List.mem_cons_of_mem _ (List.mem_cons_self ..))
  rw [hsecond.vars]
  rfl

end DynamicSql.Script
