/-
What a script is, told from the tree that it was built of.

A script is dynamic or static, and prepared or not. Both are asked of what was
built, and both can be read off the tree (`build_classified`). Whoever writes a
template can see from its tags and its placeholders whether it is prepared, and
a template that is not never collects a parameter.

# Nothing is collected

Parameters are collected where a placeholder stands, and at no other moment. In
a script that is not prepared there is no such moment (`stepwise_collected`), and
what is done between moments touches neither the mappings nor the values.
-/
import DynamicSql.Proofs.Render.Invariant
import DynamicSql.Proofs.Render.LoopNumbers
import DynamicSql.Proofs.Script
import DynamicSql.Proofs.Template.Classified

namespace DynamicSql

namespace Render

open Template (Place)

/-- Of parts that are no parameters none is collected. -/
theorem stepwise_collected :
    Stepwise (fun p : Place => p.part.isParameter = false) fun _ _ t _ _ => collected t = [] where
  stay _ := rfl
  trans h h' := by rw [collected_append, h, h', List.append_nil]
  ask _ _ := rfl
  addValue _ := rfl
  collect ha _ _ := nomatch ha
  refuse ha _ := nomatch ha
  append _ := rfl
  put _ _ := rfl
  node _ h := h
  scope h := h
  iteration _ h := h
  mark _ := rfl
  choice h := h

/-- In the course of a node without parameter placeholders nothing is
collected. -/
theorem collected_of_no_parameters {s : Setting} {node : Template.Node}
    (h : node.hasParameters = false) (c : Context) :
    collected ((node.traced s).trace c) = [] := by
  refine stepwise_collected.course_node [] node (fun p hp => ?_) c
  rw [← Template.Node.any_isParameter [], List.any_eq_false] at h
  exact Bool.eq_false_iff.mpr (h p hp)

end Render

namespace Script

open Render (outcome collected)
open Template (Tree)

variable {s : Script} {options : Options} {content : List Tree} {E : Evaluator}
  {arguments : Arguments}

theorem textStart_parameters (s : Script) (arguments : Arguments) :
    (s.textStart arguments).mappings = [] ∧ (s.textStart arguments).values = [] := by
  unfold textStart
  split <;> exact ⟨rfl, rfl⟩

/-- A script that was built is dynamic just if an element stands at its top, or a
text in which values are substituted. It is prepared just if a text with a
parameter stands in the tree, at any depth, that neither stands directly in a
choice nor anywhere in a binding. If it is not prepared, no render collects a
parameter, whether it succeeds or fails. -/
theorem build_classified (hbuild : build options content = .ok s) :
    (s.isDynamic = true
        ↔ ∃ t ∈ content, t.isElement = true ∨ t.holds .interpolation = true)
      ∧ (s.isPrepared = true ↔ ∃ raw around, Tree.StandsIn raw around content
          ∧ (around.getLast? ≠ some "choose" ∧ "bind" ∉ around)
          ∧ (Segment.split raw).any (Segment.isOfKind .parameter) = true)
      ∧ (s.isPrepared = false → ∀ (E : Evaluator) (arguments : Arguments),
          collected (s.course E arguments) = []
          ∧ (outcome (s.root.apply (s.textSetting E)) (s.textStart arguments)).2.mappings = []
          ∧ (outcome (s.root.apply (s.textSetting E)) (s.textStart arguments)).2.values = []
          ∧ ∀ known values, s.parts E arguments = .ok (known, values) →
            known.mappings = [] ∧ values = []) := by
  have hs : s.BuiltFrom options content := build_eq_ok.mp hbuild
  obtain ⟨nodes, hnodes, hroot⟩ := hs.root_eq
  refine ⟨?_, ?_, fun hnone E arguments => ?_⟩
  · rw [isDynamic, hroot]
    exact Template.anyIsDynamic_of_buildChildren hnodes
  · rw [isPrepared, hroot]
    exact Template.anyHasParameters_iff_collects hnodes
  · obtain ⟨hmappings, hvalues⟩ := Render.keeps_parameters (s.textSetting E) s.root hnone [] []
      (s.textStart_parameters arguments)
    refine ⟨Render.collected_of_no_parameters hnone _, hmappings, hvalues, ?_⟩
    intro known values hparts
    obtain ⟨handled, d, hrun, rfl, hfound⟩ := hs.parts_eq_ok.mp hparts
    rw [hrun] at hmappings hvalues
    refine ⟨hmappings, ?_⟩
    split at hfound
    · exact hfound.trans hvalues
    · exact List.eq_nil_of_length_eq_zero (by rw [length_lookUp hfound, hmappings]; rfl)

/-- A text with a parameter directly in a choice, and one in a binding. -/
def strayContent : List Tree :=
  [.element "choose" []
      [.text "#\x7ba\x7d" none, .element "when" [("test", "t")] [.text "x" none] none] none,
    .element "bind" [("name", "n"), ("value", "v")] [.text "#\x7bb\x7d" none] none]

/-- The nodes that are built, in which neither stands. -/
def strayNodes : List Template.Node :=
  [.choose [⟨"t", false, ⟨false, .text "x"⟩, none⟩] none none, .bind ⟨"n", "v", none⟩]

theorem buildChildren_strayContent :
    Template.buildChildren Options.standard strayContent = .ok strayNodes := by
  have hword : Segment.split (Template.usedText Options.standard "x") = [.literal "x"] := by
    decide +kernel
  have htext : Template.Node.ofText (Template.usedText Options.standard "x") none
      = .ok (.text "x") := by
    rw [Template.Node.ofText, hword]
    rfl
  have hcase := Template.buildSiblings_text (o := Options.standard) (by decide) htext
  rw [Template.buildChildren, strayContent, Template.buildSiblings,
    show Template.ElementKind.ofName? "choose" = some .choose from rfl]
  simp only [Template.buildChoice, show Template.ChoiceKind.ofName? "when" = some .case from rfl,
    hcase]
  show (Template.buildSiblings _ ⟨[.choose [⟨"t", false, ⟨false, .text "x"⟩, none⟩] none none],
    none⟩ [.element "bind" _ _ _]).map _ = _
  rw [Template.buildSiblings, show Template.ElementKind.ofName? "bind" = some .bind from rfl]
  show (Template.buildSiblings _ ⟨strayNodes.reverse, none⟩ []).map _ = _
  rw [Template.buildSiblings]
  rfl

/-- A text in which a value is substituted, and a loop with a parameter in it. -/
def builtContent : List Tree :=
  [.text "$\x7bx\x7d" none,
    .element "foreach" [("collection", "xs")] [.text "#\x7bid\x7d" none] none]

/-- The nodes that are built, in which both stand. -/
def builtNodes : List Template.Node :=
  [.placeholders ⟨[.interpolation "x"], none⟩,
    .foreach ⟨"xs", none, none, none, none, none, none, none⟩
      (.placeholders ⟨[.parameter ⟨.property "id", none, []⟩], none⟩)]

theorem buildChildren_builtContent :
    Template.buildChildren Options.standard builtContent = .ok builtNodes := by
  have hvalue : Segment.split (Template.usedText Options.standard "$\x7bx\x7d")
      = [.placeholder .interpolation "x"] := by decide +kernel
  have hparameter : Segment.split (Template.usedText Options.standard "#\x7bid\x7d")
      = [.placeholder .parameter "id"] := by decide +kernel
  have hinside : Template.buildChildren Options.standard [.text "#\x7bid\x7d" none]
      = .ok [.placeholders ⟨[.parameter ⟨.property "id", none, []⟩], none⟩] := by
    rw [Template.buildChildren, Template.buildSiblings_text (by decide)
      (Template.Node.ofText_parameter hparameter rfl none)]
    rfl
  have hloop : Template.Contribution.read Options.standard
      (.element "foreach" [("collection", "xs")] [.text "#\x7bid\x7d" none] none)
        = .ok (.whole (.foreach ⟨"xs", none, none, none, none, none, none, none⟩
          (.placeholders ⟨[.parameter ⟨.property "id", none, []⟩], none⟩))) := by
    show (Except.ok _ >>= fun head => Template.buildChildren _ _ >>= _) = _
    rw [hinside]
    rfl
  have htext : Template.Contribution.read Options.standard (.text "$\x7bx\x7d" none)
      = .ok (.text (.placeholders ⟨[.interpolation "x"], none⟩)) := by
    rw [Template.Contribution.read, if_neg (by decide), Template.Node.ofText, hvalue]
    rfl
  rw [Template.buildChildren, builtContent, Template.buildSiblings_cons, htext]
  show (Template.buildSiblings _ ⟨[.placeholders ⟨[.interpolation "x"], none⟩], none⟩ _).map _ = _
  rw [Template.buildSiblings_cons, hloop]
  show (Template.buildSiblings _ ⟨builtNodes.reverse, none⟩ []).map _ = _
  rw [Template.buildSiblings]
  rfl

/-- The one is dynamic by its tags. It is not prepared, and no render collects any of
the two parameters. The other is dynamic by the text at its top, and prepared by the
parameter in its loop. -/
theorem build_classified_of_contents :
    (∃ s, build Options.standard strayContent = .ok s ∧ s.isDynamic = true
      ∧ s.isPrepared = false
      ∧ ∀ (E : Evaluator) (arguments : Arguments), collected (s.course E arguments) = [])
    ∧ ∃ s, build Options.standard builtContent = .ok s
      ∧ Tree.holds .interpolation (.text "$\x7bx\x7d" none) = true ∧ s.isDynamic = true
      ∧ Tree.StandsIn "#\x7bid\x7d" ["foreach"] builtContent ∧ s.isPrepared = true := by
  constructor
  · have hbuild : build Options.standard strayContent
        = .ok ⟨.sequence strayNodes, Options.standard, none, Evaluator.standard, none⟩ := by
      rw [build_of_nodes rfl buildChildren_strayContent]
      rfl
    obtain ⟨hdynamic, -, hnothing⟩ := build_classified hbuild
    refine ⟨_, hbuild, hdynamic.mpr ⟨_, List.mem_cons_self, .inl rfl⟩, rfl, fun E arguments => ?_⟩
    exact (hnothing rfl E arguments).1
  · have hbuild : build Options.standard builtContent
        = .ok ⟨.sequence builtNodes, Options.standard, none, Evaluator.standard, none⟩ := by
      rw [build_of_nodes rfl buildChildren_builtContent]
      rfl
    obtain ⟨hdynamic, hprepared, -⟩ := build_classified hbuild
    have hvalue : Tree.holds .interpolation (.text "$\x7bx\x7d" none) = true := by decide +kernel
    have hparameter : (Segment.split "#\x7bid\x7d").any (Segment.isOfKind .parameter) = true := by
      decide +kernel
    have hstands : Tree.StandsIn "#\x7bid\x7d" ["foreach"] builtContent :=
      .inside (List.mem_cons_of_mem _ List.mem_cons_self) (.here List.mem_cons_self)
    have hplace : ["foreach"].getLast? ≠ some "choose" ∧ "bind" ∉ ["foreach"] := by decide
    exact ⟨_, hbuild, hvalue, hdynamic.mpr ⟨_, List.mem_cons_self, .inr hvalue⟩, hstands,
      hprepared.mpr ⟨_, _, hstands, hplace, hparameter⟩⟩

end Script

end DynamicSql
