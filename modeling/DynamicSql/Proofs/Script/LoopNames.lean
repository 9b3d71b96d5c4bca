/-
Parameters inside loops are recorded under names of their own, if the leading
name is properly ended.

A parameter whose leading name is a loop variable refers to the innermost
iteration around it that has a variable of that name. It is recorded under
the name of that iteration exactly if its leading name is followed by the end
of the property, a dot, a comma, a colon or a blank. After anything else that
ends a name in the language of expressions, such as a bracket or an operator,
it keeps the property of the template.

# What this means for the caller

Parameters of different iterations have different properties, with one
exception: one and the same property whose leading name is not properly ended
is recorded unchanged by every iteration (`recorded_eq_iff`).
-/
import DynamicSql.Proofs.LoopVariable
import DynamicSql.Proofs.Render.LoopNumbers
import DynamicSql.Proofs.Script.Markers

namespace DynamicSql

open LoopVariable

namespace Render

/-- The parameter begins with a variable of the iteration, and with none of
an iteration further inside. All loops around have plain names for their
variables. -/
structure RefersTo (p : Parameter.Mapping × Context) (property : String) (f : LoopFrame) :
    Prop where
  property_eq : p.1.property? = some property
  plain : ∀ g ∈ p.2.frames, g.Plain
  innermost : LoopFrame.innermost? p.2.frames (leading property) = some f

namespace RefersTo

variable {p p' : Parameter.Mapping × Context} {property property' : String} {f f' : LoopFrame}

theorem mem (h : RefersTo p property f) : f ∈ p.2.frames ∧ leading property ∈ f.names :=
  LoopFrame.mem_of_innermost? h.innermost

theorem isPlain_leading (h : RefersTo p property f) : isPlain (leading property) = true :=
  h.plain f h.mem.1 _ h.mem.2

theorem isName_leading (h : RefersTo p property f) : Token.isName (leading property) = true :=
  (h.plain f h.mem.1).isName h.mem.2

theorem property?_recorded (h : RefersTo p property f) :
    (recorded p).property? = some (if endsName (trailing property).toList = true
      then uniqueName (leading property) f.unique ++ trailing property else property) := by
  rw [recorded, Context.uniquify, h.property_eq]
  show some (Context.renamed p.2.frames property) = _
  rw [Context.renamed_eq h.plain, h.innermost]

/-- What is in the template never begins with the name of an iteration. -/
theorem ne_uniqueName (h : RefersTo p property f) (name rest : String) (n : Nat) :
    property ≠ uniqueName name n ++ rest := by
  intro heq
  have hplain := h.isPlain_leading
  rw [heq, isPlain_leading_uniqueName] at hplain
  cases hplain

/-- The name of the iteration is at the beginning exactly if the leading name
is properly ended. -/
theorem begins_iff (h : RefersTo p property f) :
    (∃ rest, (recorded p).property? = some (uniqueName (leading property) f.unique ++ rest))
      ↔ endsName (trailing property).toList = true := by
  rw [h.property?_recorded]
  constructor
  · rintro ⟨rest, hrest⟩
    split at hrest
    · next hends => exact hends
    · exact absurd (Option.some.inj hrest) (h.ne_uniqueName _ _ _)
  · intro hends
    rw [if_pos hends]
    exact ⟨_, rfl⟩

/-- Two parameters of different iterations are told apart by their properties,
unless these are the same in the template and none of the loops renames
them. -/
theorem recorded_eq_iff (h : RefersTo p property f) (h' : RefersTo p' property' f')
    (hne : f.unique ≠ f'.unique) :
    (recorded p).property? = (recorded p').property?
      ↔ property = property' ∧ endsName (trailing property).toList = false := by
  rw [h.property?_recorded, h'.property?_recorded, Option.some_inj, ← Bool.not_eq_true]
  by_cases hends : endsName (trailing property).toList = true
  · rw [if_pos hends]
    refine iff_of_false (fun heq => ?_) fun hboth => hboth.2 hends
    by_cases hends' : endsName (trailing property').toList = true
    · rw [if_pos hends'] at heq
      have hleading := congrArg leading heq
      rw [(leading_uniqueName h.isName_leading _ hends).1,
        (leading_uniqueName h'.isName_leading _ hends').1] at hleading
      exact hne (uniqueName_injective hleading).2
    · rw [if_neg hends'] at heq
      exact h'.ne_uniqueName _ _ _ heq.symm
  · rw [if_neg hends]
    by_cases hends' : endsName (trailing property').toList = true
    · rw [if_pos hends']
      refine iff_of_false (h.ne_uniqueName _ _ _) fun hboth => hends ?_
      rw [hboth.1]
      exact hends'
    · rw [if_neg hends']
      exact ⟨fun heq => ⟨heq, hends⟩, And.left⟩

end RefersTo

end Render

namespace Script

open Render (outcome collected entered recorded RefersTo)

variable {s : Script} {options : Options} {content : List Template.Tree}
  {E : Evaluator} {arguments : Arguments}

/-- The parameters of loops in the result of a render. The parameters of the
result are those collected, in order and as they are recorded. The
iterations are numbered in the order in which they were entered. A parameter
that begins with a loop variable refers to an iteration that was entered, of
a loop with that variable, and is recorded under the name of the iteration
exactly if its leading name is properly ended; otherwise it is recorded as it
stands in the template. And two parameters that refer to different iterations
have the same property exactly if they have the same property in the template
and their leading name is not properly ended. -/
theorem build_renderWith_loopNames {b : BoundSql} (hbuild : build options content = .ok s)
    (hrender : s.renderWith E arguments = .ok b) :
    b.bound.map Parameter.Bound.mapping = (collected (s.course E arguments)).map recorded
      ∧ (entered (s.course E arguments)).map Prod.snd
          = List.range (entered (s.course E arguments)).length
      ∧ (∀ p ∈ collected (s.course E arguments), ∀ property f, RefersTo p property f →
          (∃ head, (head, f.unique) ∈ entered (s.course E arguments)
              ∧ leading property ∈ head.names)
            ∧ ((∃ rest, (recorded p).property?
                  = some (uniqueName (leading property) f.unique ++ rest))
                ↔ endsName (trailing property).toList = true)
            ∧ (recorded p).property? = some (if endsName (trailing property).toList = true
                then uniqueName (leading property) f.unique ++ trailing property
                else property))
      ∧ ∀ p ∈ collected (s.course E arguments), ∀ p' ∈ collected (s.course E arguments),
          ∀ property property' f f', RefersTo p property f → RefersTo p' property' f' →
            f.unique ≠ f'.unique →
              ((recorded p).property? = (recorded p').property?
                ↔ property = property' ∧ endsName (trailing property).toList = false) := by
  have hs : s.BuiltFrom options content := build_eq_ok.mp hbuild
  obtain ⟨known, values, hparts, rfl⟩ := parts_of_renderWith hrender
  have hbound := hs.map_mapping_bound hparts
  obtain ⟨handled, d, hrun, rfl, -⟩ := hs.parts_eq_ok.mp hparts
  have hcounted := Render.counted_of_apply hrun
  have hframes : (s.textStart arguments).frames = [] := by
    unfold textStart
    split <;> rfl
  have hmappings : (s.textStart arguments).mappings = [] := by
    unfold textStart
    split <;> rfl
  have hiterations : (s.textStart arguments).iterations = 0 := by
    unfold textStart
    split <;> rfl
  refine ⟨?_, ?_, ?_, ?_⟩
  · rw [hbound]
    show d.mappings = _
    rw [hcounted.mappings rfl, hmappings, List.nil_append]
    rfl
  · have hnumbers := hcounted.numbers
    have hlength := congrArg List.length hnumbers
    rw [List.length_map, List.length_range', hiterations, Nat.sub_zero] at hlength
    rw [hiterations, Nat.sub_zero, ← hlength, ← List.range_eq_range'] at hnumbers
    exact hnumbers
  · rintro ⟨m, c⟩ hp property f h
    refine ⟨?_, h.begins_iff, h.property?_recorded⟩
    rcases hcounted.origin _ (Render.mem_collected.mp hp) f h.mem.1 with
      ⟨g, hg, -⟩ | ⟨head, hmem, hnames⟩
    · rw [hframes] at hg
      cases hg
    · refine ⟨head, hmem, ?_⟩
      rw [hnames]
      exact h.mem.2
  · intro p _ p' _ property property' f f' h h' hne
    exact h.recorded_eq_iff h' hne

/-- The parameters of two elements, under the names of two iterations. -/
theorem renderWith_loopNames_of_two :
    ∃ b, listScript.renderWith (fun _ _ => .ok (.list [.null, .null])) [] = .ok b
      ∧ b.bound.map (fun p => p.mapping.property?)
        = [some "__frch_x_0", some "__frch_x_1"] := by
  have hrender : listScript.renderWith (fun _ _ => .ok (.list [.null, .null])) []
      = .ok _ := rfl
  obtain ⟨hbound, -, hone, -⟩ := build_renderWith_loopNames build_listContent hrender
  obtain ⟨c, c', hcollected, hc, hc'⟩ : ∃ c c' : Context,
      collected (listScript.course (fun _ _ => .ok (.list [.null, .null])) [])
          = [(⟨.property "x", none, []⟩, c), (⟨.property "x", none, []⟩, c')]
        ∧ c.frames = [⟨none, false, some "x", none, 0⟩]
        ∧ c'.frames = [⟨some ",", false, some "x", none, 1⟩] := ⟨_, _, rfl, rfl, rfl⟩
  rw [hcollected] at hbound hone
  have hrefers : ∀ {c : Context} {f : LoopFrame}, c.frames = [f] → f.names = ["x"] →
      RefersTo (⟨.property "x", none, []⟩, c) "x" f := by
    intro c f hc hnames
    have hplain : f.Plain := by
      intro name hn
      rw [hnames] at hn
      rw [List.mem_singleton.mp hn]
      decide
    refine ⟨rfl, fun g hg => ?_, ?_⟩
    · change g ∈ c.frames at hg
      rw [hc, List.mem_singleton] at hg
      rw [hg]
      exact hplain
    · show LoopFrame.innermost? c.frames "x" = some f
      rw [hc]
      refine LoopFrame.innermost?_cons_of_binds (LoopFrame.binds_iff.mpr ?_) []
      rw [hnames]
      exact List.mem_singleton.mpr rfl
  obtain ⟨-, -, hx⟩ := hone _ (List.mem_cons_self ..) "x" _ (hrefers hc rfl)
  obtain ⟨-, -, hx'⟩ := hone _ (List.mem_cons_of_mem _ (List.mem_singleton.mpr rfl)) "x" _
    (hrefers hc' rfl)
  refine ⟨_, hrender, ?_⟩
  have hproperties := congrArg (List.map Parameter.Mapping.property?) hbound
  rw [List.map_map, List.map_map] at hproperties
  refine hproperties.trans ?_
  show [(recorded _).property?, (recorded _).property?] = _
  rw [hx, hx']
  rfl

/-- A loop that writes the first item of each element. -/
def indexContent : List Template.Tree :=
  [.element "foreach" [("collection", "xs"), ("item", "x")] [.text "#\x7bx[0]\x7d" none] none]

/-- The script that is built of it. -/
def indexScript : Script :=
  ⟨.sequence [.foreach ⟨"xs", none, some "x", none, none, none, none, none⟩
      (.placeholders ⟨[.parameter ⟨.property "x[0]", none, []⟩], none⟩)],
    Options.standard, none, Evaluator.standard, none⟩

theorem build_indexContent : build Options.standard indexContent = .ok indexScript := by
  have hsplit : Segment.split (Template.usedText Options.standard "#\x7bx[0]\x7d")
      = [.placeholder .parameter "x[0]"] := by decide +kernel
  have htext := Template.Node.ofText_parameter hsplit rfl none
  have hnodes := Template.buildChildren_foreach (o := Options.standard)
    (show Template.LoopHead.read "foreach" [("collection", "xs"), ("item", "x")] none
      = .ok _ from rfl) (Template.buildSiblings_text (by decide) htext)
  exact build_eq_ok.mpr ⟨rfl, rfl, rfl, ⟨_, hnodes, rfl⟩, rfl⟩

/-- A bracket ends the leading name, but not properly: the parameters refer to
two iterations, and both are recorded under the property of the template. -/
theorem renderWith_loopNames_of_index :
    build Options.standard indexContent = .ok indexScript
      ∧ (collected (indexScript.course Evaluator.standard
          [("xs", .list [.list [.int 1], .list [.int 2]])])).map
            (fun p => (LoopFrame.innermost? p.2.frames (leading "x[0]")).map LoopFrame.unique)
        = [some 0, some 1]
      ∧ (indexScript.renderWith Evaluator.standard
          [("xs", .list [.list [.int 1], .list [.int 2]])]).toOption.map
            (fun b => b.bound.map fun p => p.mapping.property?)
        = some [some "x[0]", some "x[0]"] :=
  ⟨build_indexContent, by decide +kernel, by decide +kernel⟩

end Script

end DynamicSql
