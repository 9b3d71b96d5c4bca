/-
Parameters inside loops have the values that the template asks for.

Inside a loop a parameter is evaluated and recorded under another property
than the one in the template. At that moment both properties have the same
value: the leading name is replaced by one that is bound to the same
(`DynamicSql.Proofs.Render.LoopScope`), and what follows it is left as it is
(`DynamicSql.Proofs.Expr.Renaming`).

# Blanks

Renaming drops the blanks before the leading name. The reader of placeholders
has cut off those that are ASCII. The expression language passes over the
same, but not over other blanks, so that a property beginning with one is an
expression only once it is renamed. These are left out.
-/
import DynamicSql.Proofs.Parameter.Source
import DynamicSql.Proofs.Render.LoopScope
import DynamicSql.Proofs.Script
import DynamicSql.Proofs.Template.Read

namespace DynamicSql

open LoopVariable

/-- The name of an iteration is no literal and no operator. -/
theorem Expr.isVariable_uniqueName {name : String} (h : Token.isName name = true) (n : Nat) :
    Expr.isVariable (uniqueName name n) = true := by
  have hfirst : (uniqueName name n).toList.head? = some '_' := by
    rw [toList_uniqueName]
    rfl
  have hkeyword : ∀ word ∈ ["null", "true", "false", "not"], word ≠ uniqueName name n := by
    rintro word hword rfl
    have hnone : ∀ w ∈ ["null", "true", "false", "not"], w.toList.head? ≠ some '_' := by decide
    exact hnone _ hword hfirst
  unfold Expr.isVariable
  rw [isName_uniqueName h n, Bool.true_and, Bool.not_eq_true']
  refine Bool.eq_false_iff.mpr fun hmem => ?_
  exact hkeyword _ (List.contains_iff_mem.mp hmem) rfl

/-- A property that does not begin with a blank is its leading name and what
follows it. -/
theorem LoopVariable.leading_append_trailing_eq {property : String}
    (h : ∀ ch, property.toList.head? = some ch → Text.isBlank ch = false) :
    leading property ++ trailing property = property := by
  refine String.ext ?_
  rw [String.toList_append, leading_append_trailing]
  cases hcs : property.toList with
  | nil => rfl
  | cons ch cs =>
    rw [hcs] at h
    exact List.dropWhile_cons_of_neg (Bool.eq_false_iff.mp (h ch rfl))

/-- Where the loops around are live, a property has the value that it has
under the name that they give to it. -/
theorem Render.Live.evalText_renamed {around : List Template.LoopHead} {c : Context}
    (h : Live around c) {property : String}
    (hstart : ∀ ch, property.toList.head? = some ch → Text.isBlank ch = false) :
    SameAnswer (Expr.evalText (Context.renamed c.frames property) c.vars)
      (Expr.evalText property c.vars) := by
  have hplain : ∀ f ∈ c.frames, f.Plain := fun f hf name hn => (h.proper f hf name hn).2
  rw [Context.renamed_eq hplain]
  split
  · next hends =>
    split
    · next f hf =>
      obtain ⟨hmem, hname⟩ := LoopFrame.mem_of_innermost? hf
      have hvariable := (h.proper f hmem _ hname).1
      have hown := Expr.isVariable_uniqueName ((hplain f hmem).isName hname) f.unique
      have hsame := Expr.evalText_append hown hvariable hends (h.bound hf).symm
      rw [leading_append_trailing_eq hstart] at hsame
      exact hsame
    · exact SameAnswer.refl _
  · exact SameAnswer.refl _

namespace Script

open Render (Harmless collected mem_collected)

variable {s : Script} {options : Options} {content : List Template.Tree}

/-- The parameters of a script that was built were read. -/
theorem BuiltFrom.wasRead (hs : s.BuiltFrom options content) : s.root.WasRead := by
  obtain ⟨nodes, hnodes, hroot⟩ := hs.root_eq
  rw [hroot]
  exact fun around => Template.wasRead_allPlaces (Template.wasRead_buildChildren hnodes) around

theorem live_textStart (s : Script) (arguments : Arguments) :
    Render.Live [] (s.textStart arguments) := by
  unfold textStart
  split
  · exact .start arguments
  · exact .start []

/-- What is evaluated for a parameter inside loops has the value of the
property in the template, at every moment at which a parameter is collected.
One fails if the other does, for the same reason. -/
theorem build_evalText_uniquify (hbuild : build options content = .ok s)
    (hnames : ∀ p ∈ s.root.places [], Harmless p) (E : Evaluator) (arguments : Arguments)
    {m : Parameter.Mapping} {c : Context}
    (hcollected : (m, c) ∈ collected (s.course E arguments))
    {property : String} (hproperty : m.property? = some property)
    (hstart : ∀ ch, property.toList.head? = some ch → Text.isBlank ch = true → ch.toNat < 128) :
    SameAnswer (Evaluator.standard (Context.uniquify c.frames m).source.text c.vars)
      (Evaluator.standard m.source.text c.vars) := by
  have hs : s.BuiltFrom options content := build_eq_ok.mp hbuild
  obtain ⟨around, hlive, hplace⟩ :=
    Render.lively_of_mem_trace hnames (s.live_textStart arguments) _ (mem_collected.mp hcollected)
  obtain ⟨content, hread⟩ : Template.Part.WasRead (.parameter m) := hs.wasRead [] _ hplace
  have hblank : ∀ ch, property.toList.head? = some ch → Text.isBlank ch = false := by
    intro ch hch
    have hspace := Parameter.Mapping.head?_property hread hproperty hch
    refine Bool.eq_false_iff.mpr fun hb => ?_
    rw [Text.isSpaceOrControl_of_isBlank hb (hstart ch hch hb)] at hspace
    cases hspace
  have hsource : m.source = .property property := by
    unfold Parameter.Mapping.property? at hproperty
    split at hproperty
    · next path hpath => rw [hpath, Option.some.inj hproperty]
    · cases hproperty
  have htext : (Context.uniquify c.frames m).source.text = Context.renamed c.frames property := by
    rw [Context.uniquify, hproperty]
    rfl
  rw [htext, hsource]
  exact hlive.evalText_renamed hblank

/-- The parameter of the second of two elements. -/
theorem evalText_uniquify_of_second :
    ∃ c : Context, c.frames.map LoopFrame.unique = [1]
      ∧ SameAnswer (Evaluator.standard "__frch_x_1" c.vars) (Evaluator.standard "x" c.vars) := by
  have hsecond : ((⟨.property "x", none, []⟩, [⟨some ",", false, some "x", none, 1⟩]) :
      Parameter.Mapping × List LoopFrame) ∈ (collected (listScript.course Evaluator.standard
        [("xs", .list [.bool true, .bool false])])).map (fun p => (p.1, p.2.frames)) := by
    decide +kernel
  obtain ⟨⟨m, c⟩, hcollected, heq⟩ := List.mem_map.mp hsecond
  obtain ⟨rfl, hframes⟩ := Prod.mk.inj heq
  have hsame := build_evalText_uniquify build_listContent (by decide) _ _ hcollected rfl
    (fun ch hch _ => by
      obtain rfl := Option.some.inj hch
      decide)
  simp only at hframes
  rw [hframes] at hsame
  refine ⟨c, ?_, ?_⟩
  · rw [hframes]
    rfl
  · exact hsame

end Script

end DynamicSql
