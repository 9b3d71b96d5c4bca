/-
Giving every branch of a script a scope of its own changes no render.

Building a script gives scopes only to those branches that bind variables.
This saves entering and leaving scopes, and it is not seen from outside:
neither in the text and the parameters of a render, nor in its errors, nor in
what it hands to the evaluator.

What makes the difference invisible are the empty scopes of
`DynamicSql.Proofs.Render.ExtraScopes`. What is used of building is only that
the branches without scopes bind nothing, at whatever depth
(`BuiltFrom.ownScope_eq`).
-/
import DynamicSql.Proofs.Render.ExtraScopes
import DynamicSql.Proofs.Script.Static
import DynamicSql.Proofs.Script.Tags
import DynamicSql.Proofs.Template.Chains

namespace DynamicSql

namespace Render

open Context (Padded)
open Template (Node Body)

variable {c : Context}

/-- The same result, and contexts that are the same but for their scopes, in
which the same variables are in sight. -/
structure SameButScopes {α : Type} (x y : Except RenderError α × Context) : Prop where
  result : x.1 = y.1
  bare : x.2.bare = y.2.bare
  vars : x.2.vars = y.2.vars

/-- Actions that both go with a third one go with each other. -/
theorem sameButScopes_of_indifferent {α : Type} {x y z : Render α}
    (hx : Indifferent [] false x z) (hy : Indifferent [] false y z)
    (h : Padded [] [] c c) : SameButScopes (outcome x c) (outcome y c) := by
  obtain ⟨hresult, hafter⟩ := hx [] nofun h
  obtain ⟨hresult', hafter'⟩ := hy [] nofun h
  exact ⟨hresult.trans hresult'.symm, hafter.bare.trans hafter'.bare.symm,
    hafter.vars_eq.trans hafter'.vars_eq.symm⟩

/-- A body that binds nothing does the same in a scope of its own as in the one
that is there. -/
theorem sameButScopes_body {s : Setting} {b : Body} (hown : b.ownScope = b.containsBind)
    (hwithin : b.node.OwnsBinds) (hnone : b.containsBind = false) (h : Padded [] [] c c) :
    SameButScopes (outcome (b.apply s) c) (outcome ((⟨true, b.node⟩ : Body).apply s) c) := by
  obtain ⟨own, n⟩ := b
  obtain rfl : own = false := hown.trans hnone
  have hn : Indifferent [] false (n.apply s) (n.scopedEverywhere.apply s) :=
    (Indifferent.node s n hwithin).mono fun hb => absurd hb (Bool.eq_false_iff.mp hnone)
  have hbody := hn.bind fun _ => .pure ()
  exact sameButScopes_of_indifferent hbody.inExtraScope hbody.inScope h

end Render

namespace Script

open Render (outcome SameButScopes Indifferent)

variable {s : Script} {options : Options} {content : List Template.Tree}
  {E : Evaluator} {arguments : Arguments}

/-- The script with a scope of its own for the body of every branch. -/
def scopedEverywhere (s : Script) : Script := { s with root := s.root.scopedEverywhere }

theorem settingWith_scopedEverywhere : s.scopedEverywhere.settingWith E = s.settingWith E :=
  congrArg (setting s.options s.filter E) (Template.Node.isDynamic_scopedEverywhere s.root)

theorem result_scopedEverywhere (known : StaticSql) (values : List Value) :
    s.scopedEverywhere.result known values = s.result known values := by
  have hprepared : s.scopedEverywhere.isPrepared = s.isPrepared :=
    Template.Node.hasParameters_scopedEverywhere s.root
  rw [result, result, hprepared]

theorem BuiltFrom.ownsBinds (hs : s.BuiltFrom options content) : s.root.OwnsBinds :=
  fun _ hn => hs.ownScope_eq hn

/-- Applied to the arguments, the two roots give the same result and the same
output. -/
theorem outcome_scopedEverywhere (h : s.root.OwnsBinds) (setting : Setting)
    (arguments : Arguments) :
    (outcome (s.scopedEverywhere.root.apply setting) (Context.start arguments)).1
        = (outcome (s.root.apply setting) (Context.start arguments)).1
      ∧ (outcome (s.scopedEverywhere.root.apply setting) (Context.start arguments)).2.bare
        = (outcome (s.root.apply setting) (Context.start arguments)).2.bare := by
  have hstart := Render.padded_refl (Context.stacked_start arguments)
  obtain ⟨hresult, hafter⟩ := Indifferent.node setting s.root h [] (fun _ => by simp) hstart
  exact ⟨hresult.symm, hafter.bare.symm⟩

/-- Neither the scopes nor what has been asked is gathered. -/
theorem gathered_congr {α β : Type} {x : Except RenderError α × Context}
    {y : Except RenderError β × Context}
    (before : List String) (hresult : (x.1.map fun _ => ()) = y.1.map fun _ => ())
    (hbare : x.2.bare = (y.2.askedAfter before).bare) : gathered x = gathered y := by
  obtain ⟨r, c⟩ := x
  obtain ⟨r', d⟩ := y
  cases r with
  | error e =>
    cases r' with
    | error e' => exact congrArg Except.error (Except.error.inj hresult)
    | ok _ => cases hresult
  | ok a =>
    cases r' with
    | error e' => cases hresult
    | ok b =>
      have hd : gathered (Except.ok b, d) = .ok (⟨(d.askedAfter before).bare.sql,
          (d.askedAfter before).bare.mappings⟩, (d.askedAfter before).bare.values) := rfl
      rw [hd, ← hbare]
      rfl

theorem BuiltFrom.parts_scopedEverywhere (hs : s.BuiltFrom options content) :
    s.scopedEverywhere.parts E arguments = s.parts E arguments := by
  cases hres : s.resolved with
  | some known =>
    have hres' : s.scopedEverywhere.resolved = some known := hres
    rw [parts_resolved hres, parts_resolved hres']
  | none =>
    have hres' : s.scopedEverywhere.resolved = none := hres
    obtain ⟨hresult, hbare⟩ := outcome_scopedEverywhere hs.ownsBinds (s.settingWith E) arguments
    rw [parts_unresolved hres, parts_unresolved hres', settingWith_scopedEverywhere]
    exact gathered_congr [] (congrArg _ hresult) hbare

/-- Skipping scopes is invisible: a script that was built gives the same
result or the same error as the one in which every branch has a scope of its
own, whether its text is worked out beforehand or when it is rendered. At every
point that a render comes to, running a body that binds nothing in the scope
that is there does the same as running it in a scope of its own. -/
theorem build_renderWith_scopedEverywhere (hbuild : build options content = .ok s)
    (E : Evaluator) (arguments : Arguments) :
    s.scopedEverywhere.renderWith E arguments = s.renderWith E arguments
      ∧ s.scopedEverywhere.interpreted E arguments = s.interpreted E arguments
      ∧ ∀ n ∈ s.root.within, ∀ b ∈ n.bodies, b.containsBind = false →
        b.ownScope = false
          ∧ ∀ m ∈ s.course E arguments,
            SameButScopes (outcome (b.apply (s.textSetting E)) m.ctx)
              (outcome ((⟨true, b.node⟩ : Template.Body).apply (s.textSetting E)) m.ctx) := by
  have hs : s.BuiltFrom options content := build_eq_ok.mp hbuild
  refine ⟨?_, ?_, fun n hn b hb hnone => ⟨(hs.ownScope_eq hn b hb).trans hnone, fun m hm => ?_⟩⟩
  · rw [renderWith_eq_map, renderWith_eq_map, hs.parts_scopedEverywhere]
    simp only [result_scopedEverywhere]
  · obtain ⟨hresult, hbare⟩ :=
      outcome_scopedEverywhere hs.ownsBinds (setting s.options s.filter E true) arguments
    rw [interpreted_eq_gathered, interpreted_eq_gathered]
    exact gathered_congr [] (congrArg _ hresult) hbare
  · obtain ⟨stack, hstack⟩ := exists_stacked_of_mem_course hm
    exact Render.sameButScopes_body (hs.ownScope_eq hn b hb) (hs.ownsBinds.body hn hb) hnone
      (Render.padded_refl hstack)

/-- A parameter under a condition. -/
def optionalParameter : Template.IfChain :=
  ⟨⟨[("test", "t")], [.text "#\x7bx\x7d" none], none, "t", rfl⟩, [], none⟩

/-- What is run if the condition holds. -/
def optionalBody : Template.Body :=
  ⟨false, .placeholders ⟨[.parameter ⟨.property "x", none, []⟩], none⟩⟩

theorem build_optionalParameter :
    ∃ s, build Options.standard optionalParameter.trees = .ok s
      ∧ s.root = .sequence [.conditional ⟨.if_, "t", optionalBody, none⟩ [] none] := by
  have hsplit : Segment.split (Template.usedText Options.standard "#\x7bx\x7d")
      = [.placeholder .parameter "x"] := by decide +kernel
  have htext := Template.Node.ofText_parameter hsplit rfl none
  have hnodes : Template.buildChildren Options.standard [.text "#\x7bx\x7d" none]
      = .ok [optionalBody.node] := by
    rw [Template.buildChildren, Template.buildSiblings_text (by decide) htext]
    rfl
  have hwell : ∀ c ∈ optionalParameter.contents, Template.WellBuilt Options.standard c := by
    intro c hc
    obtain rfl := List.mem_singleton.mp hc
    exact Template.wellBuilt_of_eq_ok hnodes
  have hnode : optionalParameter.node Options.standard
      = .conditional ⟨.if_, "t", optionalBody, none⟩ [] none := by
    show Template.Node.conditional ⟨.if_, "t",
      Template.Body.ofList (Template.nodesOf Options.standard [.text "#\x7bx\x7d" none]), none⟩
        [] none = _
    rw [Template.nodesOf_eq hnodes]
    rfl
  have hfilter : readFilter Options.standard = .ok none := rfl
  have hbuild := build_of_nodes hfilter (Template.IfChain.buildChildren_trees hwell)
  have hdynamic : (Template.Node.sequence [optionalParameter.node Options.standard]).isDynamic
      = true := rfl
  rw [if_pos hdynamic, hnode] at hbuild
  exact ⟨_, hbuild, rfl⟩

/-- Its branch has no scope, and giving it one changes nothing. -/
theorem renderWith_scopedEverywhere_of_parameter :
    ∃ s, build Options.standard optionalParameter.trees = .ok s
      ∧ s.scopedEverywhere.root
          = .sequence [.conditional ⟨.if_, "t", ⟨true, optionalBody.node⟩, none⟩ [] none]
      ∧ s.scopedEverywhere.renderWith (fun _ _ => .ok (.bool true)) []
          = s.renderWith (fun _ _ => .ok (.bool true)) [] := by
  obtain ⟨s, hbuild, hroot⟩ := build_optionalParameter
  refine ⟨s, hbuild, ?_,
    (build_renderWith_scopedEverywhere hbuild (fun _ _ => .ok (.bool true)) []).1⟩
  rw [scopedEverywhere, hroot]
  rfl

end Script

end DynamicSql
