/-
The markers in the text of a script and the parameters that come with it.

For each parameter there is one marker in the text, and they stand in the
order of the parameters. This is told twice. A script has one marker for all
parameters, so its text is made of some texts with that marker between each
two of them. That the markers stand in the order of the parameters can only
be seen if they differ: so the root is also applied with a marker of its own
for each parameter.

# The choice of the marker

The texts in between, the parameters and their values do not depend on the
marker chosen. A blank marker is the exception to the first of these: it may
leave out separators, or itself.
-/
import DynamicSql.Proofs.Render.Invariant
import DynamicSql.Proofs.Render.Marker
import DynamicSql.Proofs.Script
import DynamicSql.Proofs.Template.Build

namespace DynamicSql.Script

open Render (outcome)

variable {s : Script} {options : Options} {content : List Template.Tree}
  {E : Evaluator} {arguments : Arguments}

/-- The script with another marker, and with what is known beforehand if it is
static. -/
def remarked (s : Script) (m : String) (resolved : Option StaticSql) : Script :=
  { s with options := s.options.withParameterMarker m, resolved := resolved }

/-- From the content of a script another one can be built that has another
marker, and has no other differences in how its text is written. -/
theorem BuiltFrom.remarked (hs : s.BuiltFrom options content) (m : String) :
    ∃ resolved, (s.remarked m resolved).BuiltFrom (options.withParameterMarker m) content := by
  obtain ⟨nodes, hnodes, hroot⟩ := hs.root_eq
  have hoptions : (s.remarked m none).options = options.withParameterMarker m :=
    congrArg (Options.withParameterMarker · m) hs.options_eq
  have hnodes' : Template.buildChildren (options.withParameterMarker m) content = .ok nodes := by
    rw [← hnodes]
    exact Template.buildChildren_congr (show (options.withParameterMarker m).preserveWhitespace
      = options.preserveWhitespace from rfl) content
  have hres := hs.resolved_eq
  cases hd : s.isDynamic with
  | true =>
    exact ⟨none, hoptions, hs.evaluator_eq, hs.filter_eq, ⟨nodes, hnodes', hroot⟩,
      (if_pos (show (s.remarked m none).isDynamic = true from hd)).mpr rfl⟩
  | false =>
    have hstatic : ¬s.isDynamic = true := fun h => by
      rw [h] at hd
      cases hd
    obtain ⟨known, -, hknown⟩ := (if_neg hstatic).mp hres
    obtain ⟨handled, d, hrun, -⟩ := resolve_eq_ok.mp hknown
    obtain ⟨d', hrun', -⟩ := Render.apply_ok_withMarkers hrun fun _ => m
    exact ⟨some ⟨d'.sql, d'.mappings⟩, hoptions, hs.evaluator_eq, hs.filter_eq,
      ⟨nodes, hnodes', hroot⟩,
      (if_neg hstatic).mpr ⟨_, rfl, resolve_eq_ok.mpr ⟨handled, d', hrun', rfl⟩⟩⟩

/-- As many values as mappings come out of a render. -/
theorem BuiltFrom.length_values (hs : s.BuiltFrom options content) {known : StaticSql}
    {values : List Value} (h : s.parts E arguments = .ok (known, values)) :
    values.length = known.mappings.length := by
  obtain ⟨handled, d, hrun, rfl, hvalues⟩ := hs.parts_eq_ok.mp h
  cases hd : s.isDynamic with
  | true =>
    rw [hd, if_pos rfl] at hvalues
    have hkeeps := Render.keeps_length_values (s.textSetting E) hd s.root
      (c := s.textStart arguments) (by unfold textStart; rw [hd]; rfl)
    rw [hrun] at hkeeps
    rw [hvalues]
    exact hkeeps
  | false =>
    rw [hd, if_neg Bool.false_ne_true] at hvalues
    exact length_lookUp hvalues

/-- The parameters of the result have the mappings that were collected, if
the script has parameter placeholders, and otherwise none were. -/
theorem BuiltFrom.map_mapping_bound (hs : s.BuiltFrom options content) {known : StaticSql}
    {values : List Value} (h : s.parts E arguments = .ok (known, values)) :
    (s.result known values).bound.map Parameter.Bound.mapping = known.mappings := by
  have hlength := hs.length_values h
  obtain ⟨handled, d, hrun, rfl, hvalues⟩ := hs.parts_eq_ok.mp h
  unfold result BoundSql.bound
  cases hp : s.isPrepared with
  | true =>
    show (List.zipWith Parameter.Bound.mk d.mappings values).map _ = d.mappings
    rw [map_mapping_zipWith, hlength, List.take_length]
  | false =>
    have hkeeps := Render.keeps_mappings (s.textSetting E) s.root hp []
      (c := s.textStart arguments) (by unfold textStart; split <;> rfl)
    rw [hrun] at hkeeps
    exact hkeeps.symm

/-- The parameters are there exactly if the script has a placeholder for
one. -/
theorem isSome_parameters_result (known : StaticSql) (values : List Value) :
    (s.result known values).parameters.isSome = true
      ↔ ∃ part ∈ s.root.parts, part.isParameter = true := by
  have hparts : s.root.parts.any Template.Part.isParameter = s.isPrepared := by
    unfold Template.Node.parts
    rw [List.any_map]
    exact Template.Node.any_isParameter [] s.root
  rw [← List.any_eq_true, hparts]
  unfold result
  cases s.isPrepared <;> exact Iff.rfl

/-- The markers of a text and the parameters beside it. There are parameters
exactly if the template has placeholders for them, with one value for each
mapping. The text is made of texts that do not depend on the marker, one more
than there are parameters, and the marker stands between each two of them;
the parameters do not depend on the marker either, not even on a blank one.
With a marker of its own for each parameter, the markers stand in the order
of the parameters. -/
theorem build_renderWith_markers {b : BoundSql} (hbuild : build options content = .ok s)
    (hrender : s.renderWith E arguments = .ok b) :
    (b.parameters.isSome = true ↔ ∃ part ∈ s.root.parts, part.isParameter = true)
      ∧ (∃ known values, s.parts E arguments = .ok (known, values)
          ∧ values.length = known.mappings.length)
      ∧ ∃ cs : List String, cs.length = b.bound.length + 1
          ∧ (∀ m : String, ∃ s' b', build (options.withParameterMarker m) content = .ok s'
              ∧ s'.renderWith E arguments = .ok b' ∧ b'.parameters = b.parameters
              ∧ (Text.allBlank m = false → b'.sql = m.intercalate cs))
          ∧ ∀ label : Nat → String, (∀ n, Text.allBlank (label n) = false) →
              ∃ handled d,
                outcome (s.root.apply ((s.textSetting E).withMarkers label))
                    (s.textStart arguments) = (.ok handled, d)
                  ∧ d.mappings = b.bound.map Parameter.Bound.mapping
                  ∧ d.sql = weave label 0 cs := by
  have hs : s.BuiltFrom options content := build_eq_ok.mp hbuild
  obtain ⟨known, values, hparts, rfl⟩ := parts_of_renderWith hrender
  have hmappings := hs.map_mapping_bound hparts
  obtain ⟨handled, d, hrun, rfl, hvalues⟩ := hs.parts_eq_ok.mp hparts
  have hquestion : Text.allBlank "?" = false := by decide
  obtain ⟨d₀, hrun₀, hsame₀⟩ := Render.apply_ok_withMarkers hrun fun _ => "?"
  obtain ⟨cs, hcs, hwoven⟩ := Render.weave_of_apply (s.textSetting E) s.root
    (show (s.textStart arguments).fragments = [] by unfold textStart; split <;> rfl)
    (show (s.textStart arguments).mappings = [] by unfold textStart; split <;> rfl)
    (Labels.const "?" hquestion) hrun₀
  refine ⟨isSome_parameters_result _ _, ⟨_, values, hparts, hs.length_values hparts⟩,
    cs, ?_, fun m => ?_, fun label hlabel => ?_⟩
  · have hlength := congrArg List.length hmappings
    rw [List.length_map] at hlength
    rw [hcs, ← hsame₀.mappings, hlength]
  · obtain ⟨resolved, hs'⟩ := hs.remarked m
    have hsetting : (s.remarked m resolved).textSetting E
        = (s.textSetting E).withMarkers fun _ => m := rfl
    obtain ⟨d', hrun', hsame'⟩ := Render.apply_ok_withMarkers hrun fun _ => m
    have hparts' : (s.remarked m resolved).parts E arguments
        = .ok (⟨d'.sql, d'.mappings⟩, values) := by
      refine hs'.parts_eq_ok.mpr ⟨handled, d', hrun', rfl, ?_⟩
      rw [← hsame'.mappings, ← hsame'.values]
      exact hvalues
    refine ⟨_, _, build_eq_ok.mpr hs', renderWith_of_ok hparts', ?_, fun hm => ?_⟩
    · show (s.result ⟨d'.sql, d'.mappings⟩ values).parameters = _
      rw [← hsame'.mappings]
      rfl
    · obtain ⟨d'', hrun'', -, -, hsql⟩ := hwoven (Labels.const m hm)
      obtain rfl : d'' = d' := congrArg Prod.snd (hrun''.symm.trans hrun')
      show d''.sql = m.intercalate cs
      rw [hsql]
      exact weave_const m 0 cs
  · obtain ⟨d', hrun', hmappings', -, hsql⟩ := hwoven ⟨label, hlabel⟩
    refine ⟨handled, d', hrun', ?_, hsql⟩
    rw [hmappings', ← hsame₀.mappings, hmappings]

/-- With two elements there is one marker between three texts, twice. -/
theorem renderWith_markers_of_two :
    ∃ cs : List String, cs.length = 3
      ∧ ∀ m, Text.allBlank m = false → ∃ s b,
        build (Options.standard.withParameterMarker m) listContent = .ok s
          ∧ s.renderWith (fun _ _ => .ok (.list [.null, .null])) [] = .ok b
          ∧ b.sql = m.intercalate cs := by
  obtain ⟨-, -, cs, hcs, hm, -⟩ := build_renderWith_markers build_listContent
    (show listScript.renderWith (fun _ _ => .ok (.list [.null, .null])) [] = .ok _ from rfl)
  refine ⟨cs, hcs, fun m hblank => ?_⟩
  obtain ⟨s, b, hs, hb, -, hsql⟩ := hm m
  exact ⟨s, b, hs, hb, hsql hblank⟩

end DynamicSql.Script
