/-
A script that is a chain of conditions renders as one of its bodies does.

The chain asks its tests in order. With the first that holds it renders as a
script of its own would that consists of the body of that branch, and without
any it renders as the script of its `else`, or as an empty one. With the first
test that fails to evaluate it fails. No other test is asked, and no other body
is run (`build_renderWith_chain`).

# What is compared

The text and the parameters, or the error, and also what has been handed to
the evaluator (`asked`). A script without placeholders has no parameters at
all, and a chain may have an empty list of them in the same place, since
another of its bodies has placeholders. So the parameters are compared as a
list, which is empty if they are not there (`BoundSql.output`).

The script of a single body may be static, and then its text was worked out
when it was built. What is compared with the chain is what its root does
(`BuiltFrom.parts_eq_interpreted`).
-/
import DynamicSql.Proofs.Render.Chain
import DynamicSql.Proofs.Script.Markers
import DynamicSql.Proofs.Script.Scopes
import DynamicSql.Proofs.Template.Chains

namespace DynamicSql

/-- Text and parameters, with no parameters as an empty list of them. -/
def BoundSql.output (b : BoundSql) : String × List Parameter.Bound := (b.sql, b.bound)

namespace Script

open Render (outcome)
open Template (IfChain Arm WellBuilt nodesOf)

variable {s b : Script} {options : Options} {content : List Template.Tree}
  {E : Evaluator} {arguments : Arguments}

/-- What applying the root to arguments hands to an evaluator, in order. -/
def asked (s : Script) (E : Evaluator) (arguments : Arguments) : List String :=
  (outcome (s.root.apply (setting s.options s.filter E true)) (Context.start arguments)).2.asked

/-- Both scripts give the same text and parameters or the same error, and the
first one asks what the second one asks, after some other expressions. -/
structure RendersAs (s b : Script) (E : Evaluator) (arguments : Arguments)
    (before : List String) : Prop where
  output : (s.renderWith E arguments).map BoundSql.output
    = (b.renderWith E arguments).map BoundSql.output
  asked : s.asked E arguments = before ++ b.asked E arguments

-- ============================================================== output

/-- The parameters are those that were collected, whether or not the script has
placeholders for any. -/
theorem BuiltFrom.bound_eq (hs : s.BuiltFrom options content) {known : StaticSql}
    {values : List Value} (h : s.parts E arguments = .ok (known, values)) :
    (s.result known values).bound = known.mappings.zipWith Parameter.Bound.mk values := by
  have hmappings := hs.map_mapping_bound h
  unfold result BoundSql.bound at hmappings ⊢
  cases hp : s.isPrepared with
  | true => rfl
  | false =>
    rw [hp] at hmappings
    have hnone : [] = known.mappings := hmappings
    rw [← hnone]
    rfl

theorem BuiltFrom.output_renderWith (hs : s.BuiltFrom options content) :
    (s.renderWith E arguments).map BoundSql.output
      = (gathered (outcome (s.root.apply (setting s.options s.filter E true))
          (Context.start arguments))).map fun p =>
        (p.1.sql, p.1.mappings.zipWith Parameter.Bound.mk p.2) := by
  rw [← interpreted_eq_gathered, ← hs.parts_eq_interpreted]
  cases hp : s.parts E arguments with
  | error e =>
    rw [renderWith_of_error hp]
    rfl
  | ok p =>
    obtain ⟨known, values⟩ := p
    rw [renderWith_of_ok hp]
    exact congrArg (fun bound => Except.ok (known.sql, bound)) (hs.bound_eq hp)

/-- A script whose root does what that of another one does, after some
expressions have been asked. -/
theorem BuiltFrom.rendersAs {content' : List Template.Tree} (hs : s.BuiltFrom options content)
    (hb : b.BuiltFrom options content') {before : List String}
    (hresult : ((outcome (s.root.apply (setting s.options s.filter E true))
        (Context.start arguments)).1.map fun _ => ())
      = (outcome (b.root.apply (setting b.options b.filter E true))
          (Context.start arguments)).1.map fun _ => ())
    (hbare : (outcome (s.root.apply (setting s.options s.filter E true))
        (Context.start arguments)).2.bare
      = ((outcome (b.root.apply (setting b.options b.filter E true))
          (Context.start arguments)).2.askedAfter before).bare) :
    s.RendersAs b E arguments before where
  output := by rw [hs.output_renderWith, hb.output_renderWith, gathered_congr before hresult hbare]
  asked := (congrArg Context.asked hbare :)

-- =============================================================== chains

/-- Content that is well-formed as a script is so as part of one. -/
theorem BuiltFrom.root_eq_nodesOf (hb : b.BuiltFrom options content) :
    b.root = .sequence (nodesOf options content) := by
  obtain ⟨nodes, hnodes, hroot⟩ := hb.root_eq
  rw [hroot, Template.nodesOf_eq hnodes]

theorem BuiltFrom.wellBuilt (hb : b.BuiltFrom options content) : WellBuilt options content := by
  obtain ⟨nodes, hnodes, -⟩ := hb.root_eq
  exact Template.wellBuilt_of_eq_ok hnodes

theorem ownsBinds_nodesOf (options : Options) (content : List Template.Tree) :
    ∀ n ∈ nodesOf options content, n.OwnsBinds := by
  intro n hn
  unfold nodesOf at hn
  split at hn
  · next nodes hnodes =>
    exact Template.every_buildChildren Template.buildable_ownsBinds hnodes n hn
  · cases hn

/-- A chain becomes a script if each of its bodies does. -/
theorem build_chain {chain : IfChain}
    (hcontent : content.filter (fun t => !t.isBlank) = chain.trees)
    (hbodies : ∀ c ∈ chain.contents, ∃ b, build options c = .ok b) :
    ∃ s, build options content = .ok s ∧ s.root = .sequence [chain.node options] := by
  have hwell : ∀ c ∈ chain.contents, WellBuilt options c := fun c hc => by
    obtain ⟨b, hb⟩ := hbodies c hc
    exact (build_eq_ok.mp hb).wellBuilt
  obtain ⟨b, hb⟩ := hbodies chain.first.content (List.mem_cons_self ..)
  have hnodes := IfChain.buildChildren_content hcontent hwell
  have hdynamic : (Template.Node.sequence [chain.node options]).isDynamic = true := rfl
  have hbuild := build_of_nodes (build_eq_ok.mp hb).filter_eq hnodes
  rw [if_pos hdynamic] at hbuild
  exact ⟨_, hbuild, rfl⟩

/-- What a chain is without any of its branches becomes a script too. -/
theorem exists_build_rest {chain : IfChain}
    (hbodies : ∀ c ∈ chain.contents, ∃ b, build options c = .ok b) :
    ∃ b, build options chain.rest = .ok b := by
  unfold IfChain.rest
  cases hlast : chain.otherwise with
  | some e =>
    refine hbodies e.content (List.mem_append_right _ ?_)
    rw [hlast]
    exact List.mem_cons_self ..
  | none =>
    obtain ⟨b, hb⟩ := hbodies chain.first.content (List.mem_cons_self ..)
    have hnodes : Template.buildChildren options [] = .ok [] := by
      rw [Template.buildChildren, Template.buildSiblings]
      rfl
    obtain ⟨known, hbuild⟩ := build_of_static (build_eq_ok.mp hb).filter_eq hnodes rfl
    exact ⟨_, hbuild⟩

/-- What a chain does when none of its tests holds. -/
def elseAction (setting : Setting) (options : Options) (chain : IfChain) : Render Bool :=
  match chain.otherwise.map fun e => Template.Body.ofList (nodesOf options e.content) with
  | some body => Render.handledBy (body.apply setting)
  | none => return false

/-- A root that is a chain does what its branches do. -/
theorem outcome_chain (setting : Setting) (options : Options) (chain : IfChain) (c : Context) :
    outcome ((Template.Node.sequence [chain.node options]).apply setting) c
      = ((outcome (Template.Branch.applyAll setting (elseAction setting options chain)
          (chain.branches options)) c).1.map fun _ => true,
        (outcome (Template.Branch.applyAll setting (elseAction setting options chain)
          (chain.branches options)) c).2) := by
  have hnode : (chain.node options).apply setting
      = Template.Branch.applyAll setting (elseAction setting options chain)
          (chain.branches options) := by
    unfold IfChain.node elseAction
    cases chain.otherwise <;> rfl
  show outcome (discard ((chain.node options).apply setting) >>= (fun _ => pure ())
    >>= fun _ => pure true) c = _
  rw [hnode, Render.outcome_bind_pure, Render.outcome_bind_pure]
  show (Except.map _ (Except.map _ (outcome (_ >>= fun _ => pure ()) c).1),
    (outcome (_ >>= fun _ => pure ()) c).2) = _
  rw [Render.outcome_bind_pure]
  rcases outcome (Template.Branch.applyAll setting (elseAction setting options chain)
    (chain.branches options)) c with ⟨e | taken, d⟩ <;> rfl

/-- Without a test that holds, a chain does what its `else` does. -/
theorem outcome_elseAction (setting : Setting) (options : Options) (chain : IfChain)
    (arguments : Arguments) (tests : List String) :
    ((outcome (elseAction setting options chain)
          ((Context.start arguments).askAll tests)).1.map fun _ => ())
        = ((outcome ((Template.Node.sequence (nodesOf options chain.rest)).apply setting)
            (Context.start arguments)).1.map fun _ => ())
      ∧ (outcome (elseAction setting options chain)
          ((Context.start arguments).askAll tests)).2.bare
        = ((outcome ((Template.Node.sequence (nodesOf options chain.rest)).apply setting)
            (Context.start arguments)).2.askedAfter tests).bare := by
  unfold elseAction IfChain.rest
  cases chain.otherwise with
  | none =>
    have hnone : nodesOf options [] = [] := Template.nodesOf_nil
    simp only [Option.map_none, hnone]
    exact ⟨rfl, (Render.padded_askAll arguments tests).bare⟩
  | some e =>
    obtain ⟨hresult, hbare⟩ := Render.outcome_body_ofList (s := setting)
      (ownsBinds_nodesOf options e.content) arguments tests
    exact ⟨congrArg _ hresult, hbare⟩

/-- Scripts with the same options are rendered in the same setting. -/
theorem BuiltFrom.setting_eq {content' : List Template.Tree} (hs : s.BuiltFrom options content)
    (hb : b.BuiltFrom options content') :
    setting b.options b.filter E true = setting s.options s.filter E true := by
  have hfilter : s.filter = b.filter := Except.ok.inj (hs.filter_eq.symm.trans hb.filter_eq)
  rw [hs.options_eq, hb.options_eq, hfilter]

section Chain

variable {chain : IfChain} {before after : List Arm} {a : Arm}

/-- The branches of a chain before the first of some arm hold as little as the
arms that they are built of. -/
theorem condition_of_mem_passed {passed : List Template.Branch}
    (htests : passed.map Template.Branch.test = before.map Arm.test)
    (hpassed : ∀ x ∈ before, E.condition x.test (Bindings.find? arguments) = .ok false) :
    ∀ x ∈ passed, E.condition x.test (Context.start arguments).vars = .ok false := by
  have htest : ∀ test ∈ before.map Arm.test,
      E.condition test (Bindings.find? arguments) = .ok false := List.forall_mem_map.mpr hpassed
  rw [← htests] at htest
  rw [vars_start]
  exact List.forall_mem_map.mp htest

variable (hs : s.BuiltFrom options content) (hroot : s.root = .sequence [chain.node options])
include hs hroot

/-- A chain renders as another script if its branches do what the root of that
one does. -/
theorem BuiltFrom.rendersAs_of_branches {content' : List Template.Tree}
    (hb : b.BuiltFrom options content') {x : Except RenderError Bool × Context}
    {tests : List String}
    (hrun : outcome (Template.Branch.applyAll (setting s.options s.filter E true)
        (elseAction (setting s.options s.filter E true) options chain) (chain.branches options))
      (Context.start arguments) = x)
    (hx : (x.1.map fun _ => ())
        = ((outcome ((Template.Node.sequence (nodesOf options content')).apply
            (setting s.options s.filter E true)) (Context.start arguments)).1.map fun _ => ())
      ∧ x.2.bare
        = ((outcome ((Template.Node.sequence (nodesOf options content')).apply
            (setting s.options s.filter E true)) (Context.start arguments)).2.askedAfter
              tests).bare) :
    s.RendersAs b E arguments tests := by
  obtain ⟨hresult, hbare⟩ := hx
  refine hs.rendersAs hb ?_ ?_
  · rw [hb.root_eq_nodesOf, hs.setting_eq hb, ← hresult, hroot, outcome_chain, hrun]
    rcases x with ⟨e | taken, d⟩ <;> rfl
  · rw [hb.root_eq_nodesOf, hs.setting_eq hb, ← hbare, hroot, outcome_chain, hrun]

/-- With a test that holds, a chain renders as the script of its body. -/
theorem BuiltFrom.rendersAs_of_taken (harms : chain.arms = before ++ a :: after)
    (hpassed : ∀ x ∈ before, E.condition x.test (Bindings.find? arguments) = .ok false)
    (htaken : E.condition a.test (Bindings.find? arguments) = .ok true)
    (hb : b.BuiltFrom options a.content) :
    s.RendersAs b E arguments ((before ++ [a]).map Arm.test) := by
  obtain ⟨passed, later, hbranches, htests⟩ :=
    IfChain.branches_eq_append options harms
  refine hs.rendersAs_of_branches hroot hb rfl ?_
  have hnone := condition_of_mem_passed htests hpassed
  rw [← vars_start] at htaken
  rw [hbranches, Render.outcome_applyAll_of_taken hnone htaken]
  have hasked : (passed ++ [a.branch options (IfChain.tagAfter before)]).map Template.Branch.test
      = (before ++ [a]).map Arm.test := by
    rw [List.map_append, List.map_append, htests]
    rfl
  obtain ⟨hresult, hbare⟩ := Render.outcome_body_ofList (s := setting s.options s.filter E true)
    (ownsBinds_nodesOf options a.content) arguments ((before ++ [a]).map Arm.test)
  rw [hasked]
  exact ⟨congrArg _ hresult, hbare⟩

/-- With a test that cannot be evaluated, it fails. -/
theorem BuiltFrom.renderWith_of_fails (harms : chain.arms = before ++ a :: after)
    (hpassed : ∀ x ∈ before, E.condition x.test (Bindings.find? arguments) = .ok false)
    {e : EvalError} (hfails : E.condition a.test (Bindings.find? arguments) = .error e) :
    s.renderWith E arguments = .error (.expression (IfChain.tagAfter before).name a.test e)
      ∧ s.asked E arguments = (before ++ [a]).map Arm.test := by
  obtain ⟨passed, later, hbranches, htests⟩ :=
    IfChain.branches_eq_append options harms
  have hnone := condition_of_mem_passed htests hpassed
  rw [← vars_start] at hfails
  have hrun := outcome_chain (setting s.options s.filter E true) options chain
    (Context.start arguments)
  rw [hbranches, Render.outcome_applyAll_of_fails hnone hfails, ← hroot] at hrun
  constructor
  · rw [renderWith_eq_map, hs.parts_eq_interpreted, interpreted_eq_gathered, hrun]
    rfl
  · rw [asked, hrun, List.map_append, List.map_append, htests]
    rfl

/-- Without a test that holds, it renders as the script of its `else`. -/
theorem BuiltFrom.rendersAs_of_none
    (hnone : ∀ x ∈ chain.arms, E.condition x.test (Bindings.find? arguments) = .ok false)
    (hb : b.BuiltFrom options chain.rest) :
    s.RendersAs b E arguments (chain.arms.map Arm.test) := by
  have hpassed := condition_of_mem_passed (IfChain.map_test_branches options) hnone
  refine hs.rendersAs_of_branches hroot hb rfl ?_
  have hrun := Render.outcome_applyAll_of_passed (s := setting s.options s.filter E true)
    (elseAction (setting s.options s.filter E true) options chain) hpassed []
  rw [List.append_nil, IfChain.map_test_branches] at hrun
  rw [hrun]
  exact outcome_elseAction _ options chain arguments _

end Chain

/-- A script that is a chain, with blank text wherever it likes, becomes a
script if each of its bodies does. It then renders as the script of the body
with the first test that holds, or as the script of its `else`, which is empty
without one, and fails with the first test that cannot be evaluated. Up to this
point the tests are asked in order, and after it no other one. -/
theorem build_renderWith_chain {chain : IfChain}
    (hcontent : content.filter (fun t => !t.isBlank) = chain.trees)
    (hbodies : ∀ c ∈ chain.contents, ∃ b, build options c = .ok b) :
    ∃ s, build options content = .ok s ∧ ∀ (E : Evaluator) (arguments : Arguments),
      (∀ before a after, chain.arms = before ++ a :: after →
        (∀ x ∈ before, E.condition x.test (Bindings.find? arguments) = .ok false) →
          (E.condition a.test (Bindings.find? arguments) = .ok true →
            ∃ b, build options a.content = .ok b
              ∧ s.RendersAs b E arguments ((before ++ [a]).map Arm.test))
          ∧ ∀ e, E.condition a.test (Bindings.find? arguments) = .error e →
              s.renderWith E arguments
                  = .error (.expression (IfChain.tagAfter before).name a.test e)
                ∧ s.asked E arguments = (before ++ [a]).map Arm.test)
      ∧ ((∀ a ∈ chain.arms, E.condition a.test (Bindings.find? arguments) = .ok false) →
          ∃ b, build options chain.rest = .ok b
            ∧ s.RendersAs b E arguments (chain.arms.map Arm.test)) := by
  obtain ⟨s, hbuild, hroot⟩ := build_chain hcontent hbodies
  have hs : s.BuiltFrom options content := build_eq_ok.mp hbuild
  refine ⟨s, hbuild, fun E arguments => ⟨fun before a after harms hpassed =>
    ⟨fun htaken => ?_, fun e hfails => ?_⟩, fun hnone => ?_⟩⟩
  · have ha : a ∈ chain.arms := harms ▸ List.mem_append_right _ (List.mem_cons_self ..)
    obtain ⟨b, hb⟩ := hbodies a.content (List.mem_append_left _ (List.mem_map_of_mem ha))
    exact ⟨b, hb, hs.rendersAs_of_taken hroot harms hpassed htaken (build_eq_ok.mp hb)⟩
  · exact hs.renderWith_of_fails hroot harms hpassed hfails
  · obtain ⟨b, hb⟩ := exists_build_rest hbodies
    exact ⟨b, hb, hs.rendersAs_of_none hroot hnone (build_eq_ok.mp hb)⟩

/-- A chain of two branches. -/
def twoArms : IfChain :=
  ⟨⟨[("test", "a")], [.text "A" none], none, "a", rfl⟩,
    [⟨[("test", "b")], [.text "B" none], none, "b", rfl⟩], none⟩

/-- The chain on two lines. -/
def twoArmsContent : List Template.Tree :=
  [.element "if" [("test", "a")] [.text "A" none] none, .text "\n" none,
    .element "else-if" [("test", "b")] [.text "B" none] none]

theorem build_twoArms : ∀ c ∈ twoArms.contents, ∃ b, build Options.standard c = .ok b := by
  have hbuild : ∀ {text : String}, Text.allBlank text = false →
      Segment.split (Template.usedText Options.standard text) = [.literal text] →
        ∃ b, build Options.standard [.text text none] = .ok b := by
    intro text hblank hsplit
    have hnode : Template.Node.ofText (Template.usedText Options.standard text) none
        = .ok (.text (String.join [text])) := by
      rw [Template.Node.ofText, hsplit]
      rfl
    have hnodes : Template.buildChildren Options.standard [.text text none]
        = .ok [.text (String.join [text])] := by
      rw [Template.buildChildren, Template.buildSiblings_text hblank hnode]
      rfl
    have hfilter : readFilter Options.standard = .ok none := rfl
    obtain ⟨known, hb⟩ := build_of_static hfilter hnodes rfl
    exact ⟨_, hb⟩
  intro c hc
  have hmem : c = [.text "A" none] ∨ c = [.text "B" none] := by
    simpa [IfChain.contents, IfChain.arms, twoArms] using hc
  rcases hmem with rfl | rfl
  · exact hbuild (by decide) (by decide +kernel)
  · exact hbuild (by decide) (by decide +kernel)

/-- With the second test holding, it renders as its second body. -/
theorem renderWith_chain_of_second :
    ∃ s b, build Options.standard twoArmsContent = .ok s
        ∧ build Options.standard [.text "B" none] = .ok b
        ∧ s.RendersAs b (fun text _ => .ok (.bool (text == "b"))) [] ["a", "b"] := by
  have hcontent : twoArmsContent.filter (fun t => !t.isBlank) = twoArms.trees := rfl
  obtain ⟨s, hs, hrun⟩ := build_renderWith_chain hcontent build_twoArms
  obtain ⟨htaken, -⟩ := (hrun (fun text _ => .ok (.bool (text == "b"))) []).1 [twoArms.first] _ []
    rfl fun x hx => by
      obtain rfl := List.mem_singleton.mp hx
      rfl
  obtain ⟨b, hb, hrenders⟩ := htaken rfl
  exact ⟨s, b, hs, hb, hrenders⟩

end Script

end DynamicSql
