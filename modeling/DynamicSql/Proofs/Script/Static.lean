/-
Scripts that are not dynamic: what is worked out beforehand is what a render
would have given.

The text of such a script is written when it is built, without arguments and
without values. A render only looks the values up, one mapping after the
other, among the arguments as they were passed in. That this is the same as
applying the root to the arguments, as is done with all other scripts, is
shown here by following both at once.

# Two ways through a text

Beforehand nothing can fail, since no expression is evaluated: the way through
the text comes to its end, and leaves a list of mappings. With values, the
way may end at any placeholder. It ends at the first one whose value cannot
be had, and so does looking up the list: the mappings are in the order of
the placeholders, and without loops none is renamed (`Collects`).

# What the evaluator sees

A render applies the root in scopes, a look-up has the arguments alone. The
scopes are never entered or written, so the variables in sight are the
arguments all the time (`Beside`).
-/
import DynamicSql.Proofs.Render.LoopScope
import DynamicSql.Proofs.Script

namespace DynamicSql

namespace Template

/-- The mapping of a parameter placeholder. -/
def Part.parameter? : Part → Option Parameter.Mapping
  | .parameter mapping => some mapping
  | _ => none

/-- The mappings of the parameter placeholders at places. -/
def Place.parameters (places : List Place) : List Parameter.Mapping :=
  places.filterMap (·.part.parameter?)

/-- The mappings of a node's parameter placeholders, in the order of the
template. -/
def Node.parameters (node : Node) : List Parameter.Mapping := Place.parameters (node.places [])

theorem Place.parameters_append (first second : List Place) :
    parameters (first ++ second) = parameters first ++ parameters second :=
  List.filterMap_append

end Template

namespace Script

variable {E : Evaluator} {arguments : Arguments}

-- ============================================================= look-ups

theorem lookUp_append_ok {before after : List Parameter.Mapping} {values : List Value}
    (h : lookUp E arguments before = .ok values) :
    lookUp E arguments (before ++ after)
      = (lookUp E arguments after).map (values ++ ·) := by
  induction before generalizing values with
  | nil =>
    obtain rfl := Except.ok.inj h
    show lookUp E arguments after = _
    cases lookUp E arguments after <;> rfl
  | cons m rest ih =>
    simp only [List.cons_append, lookUp] at h ⊢
    cases hv : E m.source.text (Bindings.find? arguments) with
    | error e =>
      rw [hv] at h
      cases h
    | ok v =>
      rw [hv] at h
      cases hr : lookUp E arguments rest with
      | error e =>
        rw [hr] at h
        cases h
      | ok others =>
        rw [hr] at h
        obtain rfl := Except.ok.inj h
        simp only [ih hr]
        cases lookUp E arguments after <;> rfl

theorem lookUp_append_error {before after : List Parameter.Mapping} {e : RenderError}
    (h : lookUp E arguments before = .error e) :
    lookUp E arguments (before ++ after) = .error e := by
  induction before with
  | nil => cases h
  | cons m rest ih =>
    simp only [List.cons_append, lookUp] at h ⊢
    cases hv : E m.source.text (Bindings.find? arguments) with
    | error err =>
      rw [hv] at h
      exact h
    | ok v =>
      rw [hv] at h
      cases hr : lookUp E arguments rest with
      | ok others =>
        rw [hr] at h
        cases h
      | error err =>
        rw [hr] at h
        obtain rfl : err = e := Except.error.inj h
        simp only [ih hr]
        rfl

/-- Values can be looked up if each of them can be had. -/
theorem exists_lookUp_ok {mappings : List Parameter.Mapping}
    (h : ∀ m ∈ mappings, ∃ v, E m.source.text (Bindings.find? arguments) = .ok v) :
    ∃ values, lookUp E arguments mappings = .ok values := by
  induction mappings with
  | nil => exact ⟨[], rfl⟩
  | cons m rest ih =>
    obtain ⟨v, hv⟩ := h m (List.mem_cons_self ..)
    obtain ⟨values, hvalues⟩ := ih fun m' hm => h m' (List.mem_cons_of_mem _ hm)
    exact ⟨v :: values, by simp only [lookUp, hv, hvalues]; rfl⟩

/-- A look-up fails at the first mapping whose value cannot be had, and says
so of the expression of that mapping. -/
theorem lookUp_eq_error {mappings : List Parameter.Mapping} {err : RenderError} :
    lookUp E arguments mappings = .error err ↔
      ∃ before m after e, mappings = before ++ m :: after
        ∧ (∀ earlier ∈ before, ∃ v,
            E earlier.source.text (Bindings.find? arguments) = .ok v)
        ∧ E m.source.text (Bindings.find? arguments) = .error e
        ∧ err = .expression "text" m.source.text e := by
  constructor
  · intro h
    induction mappings with
    | nil => cases h
    | cons m rest ih =>
      simp only [lookUp] at h
      cases hv : E m.source.text (Bindings.find? arguments) with
      | error e =>
        rw [hv] at h
        have hnone : ∀ earlier ∈ ([] : List Parameter.Mapping), ∃ v,
            E earlier.source.text (Bindings.find? arguments) = .ok v := fun _ hm =>
          absurd hm List.not_mem_nil
        exact ⟨[], m, rest, e, rfl, hnone, hv, (Except.error.inj h).symm⟩
      | ok v =>
        rw [hv] at h
        cases hr : lookUp E arguments rest with
        | ok others =>
          rw [hr] at h
          cases h
        | error err' =>
          rw [hr] at h
          obtain rfl : err' = err := Except.error.inj h
          obtain ⟨before, m', after, e, rfl, hbefore, he, herr⟩ := ih hr
          refine ⟨m :: before, m', after, e, rfl, fun earlier hm => ?_, he, herr⟩
          rcases List.mem_cons.mp hm with rfl | hm
          · exact ⟨v, hv⟩
          · exact hbefore earlier hm
  · rintro ⟨before, m, after, e, rfl, hbefore, he, rfl⟩
    obtain ⟨values, hvalues⟩ := exists_lookUp_ok hbefore
    rw [lookUp_append_ok hvalues]
    simp only [lookUp, he]
    rfl

end Script

namespace Render

open Script (lookUp)
open Template (Node Piece Place)

variable {E : Evaluator} {arguments : Arguments} {α β : Type}

-- =========================================================== both at once

/-- Two contexts of the same way through a text, outside of all loops. The
second one sees the arguments. -/
structure Beside (arguments : Arguments) (c d : Context) : Prop where
  fragments : c.fragments = d.fragments
  mappings : c.mappings = d.mappings
  frames : c.frames = [] ∧ d.frames = []
  vars : d.vars = Bindings.find? arguments

/-- The first action collects the mappings and cannot fail. The second one
does the same and collects their values too, or fails as looking them up
does. -/
structure Collects (E : Evaluator) (arguments : Arguments) (ms : List Parameter.Mapping)
    (x y : Render α) : Prop where
  writes : ∀ {c : Context}, c.frames = [] →
    ∃ a c', outcome x c = (.ok a, c') ∧ c'.frames = [] ∧ c'.mappings = c.mappings ++ ms
  values : ∀ {c d : Context} {vs : List Value}, Beside arguments c d →
    lookUp E arguments ms = .ok vs →
      (outcome y d).1 = (outcome x c).1 ∧ Beside arguments (outcome x c).2 (outcome y d).2
        ∧ (outcome y d).2.values = d.values ++ vs
  fails : ∀ {c d : Context} {e : RenderError}, Beside arguments c d →
    lookUp E arguments ms = .error e → (outcome y d).1 = .error e

theorem collects_pure (a : α) : Collects E arguments [] (pure a) (pure a) where
  writes {c} h := ⟨a, c, rfl, h, (List.append_nil _).symm⟩
  values h hvs := by
    obtain rfl := Except.ok.inj hvs
    exact ⟨rfl, h, (List.append_nil _).symm⟩
  fails _ he := nomatch he

theorem collects_bind {ms ns : List Parameter.Mapping} {x y : Render α} {f g : α → Render β}
    (hx : Collects E arguments ms x y) (hf : ∀ a, Collects E arguments ns (f a) (g a)) :
    Collects E arguments (ms ++ ns) (x >>= f) (y >>= g) where
  writes {c} h := by
    obtain ⟨a, c', hc, hframes, hmappings⟩ := hx.writes h
    obtain ⟨b, c'', hc', hframes', hmappings'⟩ := (hf a).writes hframes
    refine ⟨b, c'', (outcome_bind_ok hc).trans hc', hframes', ?_⟩
    rw [hmappings', hmappings, List.append_assoc]
  values {c d vs} h hvs := by
    obtain ⟨a, c', hc, -, -⟩ := hx.writes h.frames.1
    cases hms : lookUp E arguments ms with
    | error e =>
      rw [Script.lookUp_append_error hms] at hvs
      cases hvs
    | ok first =>
      rw [Script.lookUp_append_ok hms] at hvs
      cases hns : lookUp E arguments ns with
      | error e =>
        rw [hns] at hvs
        cases hvs
      | ok second =>
        rw [hns] at hvs
        obtain rfl : first ++ second = vs := Except.ok.inj hvs
        obtain ⟨hresult, hbeside, hvalues⟩ := hx.values h hms
        rw [hc] at hresult hbeside
        have hd : outcome y d = (.ok a, (outcome y d).2) := Prod.ext hresult rfl
        obtain ⟨hresult', hbeside', hvalues'⟩ := (hf a).values hbeside hns
        rw [outcome_bind_ok hc, outcome_bind_ok hd]
        refine ⟨hresult', hbeside', ?_⟩
        rw [hvalues', hvalues, List.append_assoc]
  fails {c d e} h he := by
    cases hms : lookUp E arguments ms with
    | error e' =>
      rw [Script.lookUp_append_error hms] at he
      obtain rfl : e' = e := Except.error.inj he
      have hd : outcome y d = (.error e', (outcome y d).2) := Prod.ext (hx.fails h hms) rfl
      rw [outcome_bind_error hd]
    | ok first =>
      rw [Script.lookUp_append_ok hms] at he
      cases hns : lookUp E arguments ns with
      | ok second =>
        rw [hns] at he
        cases he
      | error e' =>
        rw [hns] at he
        obtain rfl : e' = e := Except.error.inj he
        obtain ⟨a, c', hc, -, -⟩ := hx.writes h.frames.1
        obtain ⟨hresult, hbeside, -⟩ := hx.values h hms
        rw [hc] at hresult hbeside
        have hd : outcome y d = (.ok a, (outcome y d).2) := Prod.ext hresult rfl
        rw [outcome_bind_ok hd]
        exact (hf a).fails hbeside hns

-- ================================================================= nodes

/-- Outside of all loops, text is written as it is. -/
theorem append_outside {c : Context} (h : c.frames = []) (text : String) :
    c.append text
      = if text.isEmpty then c else { c with fragments := c.fragments ++ [text] } := by
  have howed : c.owedSeparators = [] := by rw [Context.owedSeparators, h]; rfl
  have hsettle : Context.settle c.frames = c.frames := by rw [h]; rfl
  have hpaid : { c with
      fragments := c.fragments ++ c.owedSeparators
      frames := Context.settle c.frames } = c := by
    rw [howed, hsettle, List.append_nil]
  rw [Context.append, hpaid]
  cases Text.allBlank text <;> rfl

theorem collects_append (text : String) :
    Collects E arguments [] (append text) (append text) where
  writes {c} h := by
    refine ⟨(), c.append text, rfl, ?_, ?_⟩
    · rw [append_outside h]
      split <;> exact h
    · rw [Context.mappings_append, List.append_nil]
  values {c d vs} h hvs := by
    obtain rfl := Except.ok.inj hvs
    refine ⟨rfl, ?_, ?_⟩
    · show Beside arguments (c.append text) (d.append text)
      rw [append_outside h.frames.1, append_outside h.frames.2]
      cases text.isEmpty with
      | true => exact h
      | false => exact ⟨congrArg (· ++ [text]) h.fragments, h.mappings, h.frames, h.vars⟩
    · show (d.append text).values = d.values ++ []
      rw [Context.values_append, List.append_nil]
  fails _ he := nomatch he

/-- Outside of all loops no mapping is renamed. -/
theorem uniquify_outside (m : Parameter.Mapping) : Context.uniquify [] m = m := by
  unfold Context.uniquify
  split
  · next property hp =>
    obtain ⟨source, jdbcType, options⟩ := m
    cases source with
    | property path =>
      obtain rfl : path = property := Option.some.inj hp
      rfl
    | expression text => cases hp
  · rfl

section Settings

variable {σ τ : Setting}

/-- A placeholder collects its mapping, and the way through the text ends
there if its value cannot be had. -/
theorem collects_parameter (hmarker : σ.marker = τ.marker) (hσ : σ.collectsValues = false)
    (hτ : τ.collectsValues = true) (m : Parameter.Mapping) :
    Collects τ.evaluator arguments [m] (piece σ (.parameter m)) (piece τ (.parameter m)) where
  writes {c} h := by
    refine ⟨σ.marker c.mappings.length, c.addMapping m, ?_, h, rfl⟩
    rw [outcome_parameter, outcome_collect_plain hσ, h, uniquify_outside]
    rfl
  values {c d vs} h hvs := by
    have hc : outcome (collect σ m) c = (.ok (), c.addMapping m) := by
      rw [outcome_collect_plain hσ, h.frames.1, uniquify_outside]
    simp only [lookUp] at hvs
    cases hv : τ.evaluator m.source.text (Bindings.find? arguments) with
    | error e =>
      rw [hv] at hvs
      cases hvs
    | ok v =>
      rw [hv] at hvs
      obtain rfl : [v] = vs := Except.ok.inj hvs
      have hd : outcome (collect τ m) d
          = (.ok (), ((d.ask m.source.text).addValue v).addMapping m) := by
        have hplain := outcome_collect_ok (m := m) (c := d) (v := v) hτ
          (by rw [h.frames.2, uniquify_outside, h.vars]; exact hv)
        rw [h.frames.2, uniquify_outside] at hplain
        exact hplain
      rw [outcome_parameter, outcome_parameter, hc, hd, hmarker, h.mappings]
      exact ⟨rfl, ⟨h.fragments, congrArg (· ++ [m]) h.mappings, h.frames, h.vars⟩, rfl⟩
  fails {c d e} h he := by
    simp only [lookUp] at he
    cases hv : τ.evaluator m.source.text (Bindings.find? arguments) with
    | ok v =>
      rw [hv] at he
      cases he
    | error err =>
      rw [hv] at he
      obtain rfl := Except.error.inj he
      rw [outcome_parameter, outcome_collect_error (e := err) hτ
        (by rw [h.frames.2, uniquify_outside, h.vars]; exact hv)]
      rfl

theorem collects_pieces (hmarker : σ.marker = τ.marker) (hσ : σ.collectsValues = false)
    (hτ : τ.collectsValues = true) {ps : List Piece} (h : ps.any Piece.isInterpolation = false) :
    Collects τ.evaluator arguments (Place.parameters (Piece.places [] ps))
      (pieces σ ps) (pieces τ ps) := by
  induction ps with
  | nil => exact collects_pure ""
  | cons p rest ih =>
    rw [List.any_cons, Bool.or_eq_false_iff] at h
    have hrest : ∀ text : String, Collects τ.evaluator arguments
        (Place.parameters (Piece.places [] rest) ++ [])
        (pieces σ rest >>= fun others => pure (text ++ others))
        (pieces τ rest >>= fun others => pure (text ++ others)) := fun text =>
      collects_bind (ih h.2) fun others => collects_pure (text ++ others)
    simp only [List.append_nil] at hrest
    cases p with
    | literal text => exact collects_bind (collects_pure text) hrest
    | interpolation text => cases h.1
    | parameter m => exact collects_bind (collects_parameter hmarker hσ hτ m) hrest

mutual

/-- A node that is not dynamic collects the mappings of its placeholders. -/
theorem collects_node (hmarker : σ.marker = τ.marker) (hσ : σ.collectsValues = false)
    (hτ : τ.collectsValues = true) :
    (node : Node) → node.isDynamic = false →
      Collects τ.evaluator arguments node.parameters (node.apply σ) (node.apply τ)
  | .text content, _ => collects_bind (collects_append content) fun _ => collects_pure true
  | .placeholders t, h => by
    have hwrite : Collects τ.evaluator arguments
        ((Place.parameters (Piece.places [] t.pieces) ++ []) ++ [])
        (handledBy (write σ t.pieces)) (handledBy (write τ t.pieces)) :=
      collects_bind (collects_bind (collects_pieces hmarker hσ hτ h) fun text =>
        collects_append text) fun _ => collects_pure true
    rw [List.append_nil, List.append_nil] at hwrite
    rw [apply_placeholders, apply_placeholders]
    exact hwrite
  | .sequence children, h => by
    have hall : Collects τ.evaluator arguments
        (Place.parameters (Node.allPlaces [] children) ++ [])
        (handledBy (Node.applyAll σ children)) (handledBy (Node.applyAll τ children)) :=
      collects_bind (collects_nodes hmarker hσ hτ children h) fun _ => collects_pure true
    rw [List.append_nil] at hall
    exact hall
  | .bind _, h => by cases h
  | .conditional _ _ _, h => by cases h
  | .choose _ _ _, h => by cases h
  | .foreach _ _, h => by cases h

theorem collects_nodes (hmarker : σ.marker = τ.marker) (hσ : σ.collectsValues = false)
    (hτ : τ.collectsValues = true) :
    (nodes : List Node) → Node.anyIsDynamic nodes = false →
      Collects τ.evaluator arguments (Place.parameters (Node.allPlaces [] nodes))
        (Node.applyAll σ nodes) (Node.applyAll τ nodes)
  | [], _ => collects_pure ()
  | node :: rest, h => by
    have hboth : node.isDynamic = false ∧ Node.anyIsDynamic rest = false :=
      Bool.or_eq_false_iff.mp h
    have hnode : Collects τ.evaluator arguments (node.parameters ++ [])
        (discard (node.apply σ)) (discard (node.apply τ)) :=
      collects_bind (collects_node hmarker hσ hτ node hboth.1) fun _ => collects_pure ()
    rw [List.append_nil] at hnode
    show Collects τ.evaluator arguments
      (Place.parameters (node.places [] ++ Node.allPlaces [] rest)) _ _
    rw [Place.parameters_append]
    exact collects_bind hnode fun _ => collects_nodes hmarker hσ hτ rest hboth.2

end

end Settings

end Render

namespace Script

open Render (outcome Collects Beside)

variable {s : Script} {options : Options} {content : List Template.Tree}
  {E : Evaluator} {arguments : Arguments}

-- ============================================================== scripts

/-- Text, mappings and values as the root gives them when it is applied to
arguments and collects values, whether or not the script is dynamic. -/
def interpreted (s : Script) (E : Evaluator) (arguments : Arguments) :
    Except RenderError (StaticSql × List Value) :=
  match outcome (s.root.apply (setting s.options s.filter E true)) (Context.start arguments) with
  | (.ok _, c) => .ok (⟨c.sql, c.mappings⟩, c.values)
  | (.error e, _) => .error e

theorem interpreted_eq_gathered :
    s.interpreted E arguments = gathered
      (outcome (s.root.apply (setting s.options s.filter E true)) (Context.start arguments)) := by
  rw [interpreted]
  rcases outcome (s.root.apply (setting s.options s.filter E true)) (Context.start arguments)
    with ⟨e | handled, c⟩ <;> rfl

/-- At the beginning the variables in sight are the arguments. -/
theorem vars_start (arguments : Arguments) :
    (Context.start arguments).vars = Bindings.find? arguments := by
  funext name
  rw [(Context.stacked_start arguments).vars_eq, ScopeStack.find?_cons]
  cases Bindings.find? arguments name <;> rfl

/-- A root that is not dynamic collects the mappings of its placeholders. -/
theorem collects_root (options : Options) (filter : Option InjectionFilter) (E : Evaluator)
    (arguments : Arguments) {root : Template.Node} (hstatic : root.isDynamic = false) :
    Collects E arguments root.parameters
      (root.apply (setting options filter Evaluator.standard false))
      (root.apply (setting options filter E true)) :=
  Render.collects_node (σ := setting options filter Evaluator.standard false)
    (τ := setting options filter E true) rfl rfl rfl root hstatic

/-- If a static root can be built at all, then its text can be worked out,
and the mappings beside it are those of its placeholders. -/
theorem resolve_static (options : Options) (filter : Option InjectionFilter)
    (root : Template.Node) (hstatic : root.isDynamic = false) :
    ∃ handled d, outcome (root.apply (setting options filter Evaluator.standard false))
          (Context.start []) = (.ok handled, d)
      ∧ d.mappings = root.parameters
      ∧ resolve (setting options filter Evaluator.standard false) root
          = .ok ⟨d.sql, d.mappings⟩ := by
  obtain ⟨handled, d, hrun, -, hmappings⟩ :=
    (collects_root options filter Evaluator.standard [] hstatic).writes (c := Context.start []) rfl
  exact ⟨handled, d, hrun, hmappings, resolve_eq_ok.mpr ⟨handled, d, hrun, rfl⟩⟩

theorem build_of_static {options : Options} {content : List Template.Tree}
    {filter : Option InjectionFilter} {nodes : List Template.Node}
    (hf : readFilter options = .ok filter)
    (hn : Template.buildChildren options content = .ok nodes)
    (hstatic : (Template.Node.sequence nodes).isDynamic = false) :
    ∃ known, build options content
      = .ok ⟨.sequence nodes, options, filter, Evaluator.standard, some known⟩ := by
  obtain ⟨-, d, -, -, hresolve⟩ := resolve_static options filter _ hstatic
  refine ⟨⟨d.sql, d.mappings⟩, ?_⟩
  rw [build_of_nodes hf hn, if_neg (Bool.eq_false_iff.mp hstatic), hresolve]
  rfl

/-- A script is never refused because its text could not be worked out. -/
theorem build_onlyFaults (options : Options) (content : List Template.Tree) :
    Template.OnlyFaults (build options content) := by
  intro err h
  cases hf : readFilter options with
  | error e =>
    unfold build at h
    rw [hf] at h
    obtain rfl : e = .render err := Except.error.inj h
    unfold readFilter at hf
    split at hf
    · cases hf
    · split at hf <;> cases hf
  | ok filter =>
    cases hn : Template.buildChildren options content with
    | error e =>
      unfold build at h
      rw [hf, hn] at h
      obtain rfl : e = .render err := Except.error.inj h
      exact Template.buildChildren_onlyFaults options content err hn
    | ok nodes =>
      cases hd : (Template.Node.sequence nodes).isDynamic with
      | true =>
        rw [build_of_nodes hf hn, if_pos hd] at h
        cases h
      | false =>
        obtain ⟨known, hbuild⟩ := build_of_static hf hn hd
        rw [hbuild] at h
        cases h

/-- What a static script knows of itself is the text that its root writes
beforehand, and the mappings of its placeholders. -/
theorem BuiltFrom.parts_static (hs : s.BuiltFrom options content)
    (hstatic : s.isDynamic = false) :
    ∃ handled d, outcome (s.root.apply (setting s.options s.filter Evaluator.standard false))
          (Context.start []) = (.ok handled, d)
      ∧ d.mappings = s.root.parameters
      ∧ ∀ E arguments, s.parts E arguments
          = (lookUp E arguments d.mappings).map fun values => (⟨d.sql, d.mappings⟩, values) := by
  obtain ⟨handled, d, hrun, hmappings, hresolve⟩ :=
    resolve_static options s.filter s.root hstatic
  have hres := hs.resolved_eq
  rw [if_neg (Bool.eq_false_iff.mp hstatic)] at hres
  obtain ⟨known, hknown, hresolve'⟩ := hres
  rw [hs.options_eq]
  refine ⟨handled, d, hrun, hmappings, fun E arguments => ?_⟩
  obtain rfl : (⟨d.sql, d.mappings⟩ : StaticSql) = known :=
    Except.ok.inj (hresolve.symm.trans hresolve')
  exact parts_resolved hknown

/-- The two ways in which the parts of a static script come about give the
same parts, or fail alike. -/
theorem BuiltFrom.parts_eq_of_static (hs : s.BuiltFrom options content)
    (hstatic : s.isDynamic = false) : s.parts E arguments = s.interpreted E arguments := by
  have hcollects := collects_root s.options s.filter E arguments hstatic
  have hbeside : Beside arguments (Context.start []) (Context.start arguments) :=
    ⟨rfl, rfl, ⟨rfl, rfl⟩, vars_start arguments⟩
  obtain ⟨handled, d, hrun, hmappings, hparts⟩ := hs.parts_static hstatic
  rcases hout : outcome (s.root.apply (setting s.options s.filter E true))
    (Context.start arguments) with ⟨r, c⟩
  rw [hparts, hmappings, interpreted, hout]
  cases hvs : lookUp E arguments s.root.parameters with
  | error e =>
    have hfails := hcollects.fails hbeside hvs
    rw [hout] at hfails
    obtain rfl : r = .error e := hfails
    rfl
  | ok vs =>
    obtain ⟨hresult, hbeside', hvalues⟩ := hcollects.values hbeside hvs
    rw [hrun, hout] at hresult hbeside'
    rw [hout] at hvalues
    obtain rfl : r = .ok handled := hresult
    have hvalues' : c.values = vs := hvalues
    have hmappings' : d.mappings = c.mappings := hbeside'.mappings
    have hsql : d.sql = c.sql := congrArg (" ".intercalate ·) hbeside'.fragments
    show Except.ok ((⟨d.sql, s.root.parameters⟩ : StaticSql), vs)
      = .ok (⟨c.sql, c.mappings⟩, c.values)
    rw [hvalues', ← hmappings', hmappings, hsql]

/-- All scripts that were built give what applying the root gives, whether it
was worked out beforehand or not. -/
theorem BuiltFrom.parts_eq_interpreted (hs : s.BuiltFrom options content) :
    s.parts E arguments = s.interpreted E arguments := by
  cases hd : s.isDynamic with
  | false => exact hs.parts_eq_of_static hd
  | true =>
    have hres : s.resolved = none := (if_pos hd).mp hs.resolved_eq
    have hsetting : s.settingWith E = setting s.options s.filter E true := by rw [settingWith, hd]
    rcases hrun : outcome (s.root.apply (setting s.options s.filter E true))
        (Context.start arguments) with ⟨e | handled, c⟩
    · rw [interpreted, hrun]
      exact parts_of_apply_error hres (hsetting ▸ hrun)
    · rw [interpreted, hrun]
      exact parts_of_apply_ok hres (hsetting ▸ hrun)

/-- A render fails as its parts do, and otherwise its result is made of
them. -/
theorem renderWith_eq_map :
    s.renderWith E arguments = (s.parts E arguments).map fun p => s.result p.1 p.2 := by
  rw [renderWith]
  cases s.parts E arguments <;> rfl

/-- A static script fails as looking up the values of its placeholders
does. -/
theorem BuiltFrom.renderWith_eq_error (hs : s.BuiltFrom options content)
    (hstatic : s.isDynamic = false) {err : RenderError} :
    s.renderWith E arguments = .error err
      ↔ lookUp E arguments s.root.parameters = .error err := by
  obtain ⟨-, d, -, hmappings, hparts⟩ := hs.parts_static hstatic
  rw [renderWith_eq_map, hparts, hmappings]
  cases lookUp E arguments s.root.parameters with
  | error e =>
    show Except.error e = Except.error err ↔ Except.error e = Except.error err
    rw [Except.error.injEq, Except.error.injEq]
  | ok values =>
    constructor
    · intro h
      cases h
    · intro h
      cases h

/-- Building a script never fails in a render. If the script is static, a
render through what was worked out beforehand gives what applying the root
to the arguments gives: the same text, the same mappings, the same values,
parameters or none, or the same error. The error is that of the first
placeholder whose expression has no value among the arguments. -/
theorem build_renderWith_static (options : Options) (content : List Template.Tree)
    (E : Evaluator) (arguments : Arguments) :
    (∀ e, build options content ≠ .error (.render e))
      ∧ ∀ s, build options content = .ok s → s.isDynamic = false →
        s.parts E arguments = s.interpreted E arguments
          ∧ s.renderWith E arguments
              = (s.interpreted E arguments).map (fun p => s.result p.1 p.2)
          ∧ ∀ err, s.renderWith E arguments = .error err ↔
              ∃ before m after e, s.root.parameters = before ++ m :: after
                ∧ (∀ earlier ∈ before, ∃ v,
                    E earlier.source.text (Bindings.find? arguments) = .ok v)
                ∧ E m.source.text (Bindings.find? arguments) = .error e
                ∧ err = .expression "text" m.source.text e := by
  refine ⟨build_onlyFaults options content, fun s hbuild hstatic => ?_⟩
  have hs : s.BuiltFrom options content := build_eq_ok.mp hbuild
  have hparts : s.parts E arguments = s.interpreted E arguments :=
    hs.parts_eq_of_static hstatic
  refine ⟨hparts, ?_, fun err => ?_⟩
  · rw [renderWith_eq_map, hparts]
  · rw [hs.renderWith_eq_error hstatic]
    exact lookUp_eq_error

/-- A text with two placeholders. -/
def pairContent : List Template.Tree := [.text "#\x7ba\x7d,#\x7bb\x7d" none]

/-- The nodes that it becomes. -/
def pairNodes : List Template.Node :=
  [.placeholders ⟨[.parameter ⟨.property "a", none, []⟩, .literal ",",
    .parameter ⟨.property "b", none, []⟩], none⟩]

theorem buildChildren_pairContent :
    Template.buildChildren Options.standard pairContent = .ok pairNodes := by
  have hsplit : Segment.split (Template.usedText Options.standard "#\x7ba\x7d,#\x7bb\x7d")
      = [.placeholder .parameter "a", .literal ",", .placeholder .parameter "b"] := by
    decide +kernel
  have htext : Template.Node.ofText
      (Template.usedText Options.standard "#\x7ba\x7d,#\x7bb\x7d") none
        = .ok (.placeholders ⟨[.parameter ⟨.property "a", none, []⟩, .literal ",",
            .parameter ⟨.property "b", none, []⟩], none⟩) := by
    rw [Template.Node.ofText, hsplit]
    rfl
  rw [Template.buildChildren, pairContent,
    Template.buildSiblings_text (by decide +kernel) htext]
  rfl

/-- With a value for the first placeholder alone, the second one is the one
that is complained of. -/
theorem renderWith_static_of_pair :
    ∃ s, build Options.standard pairContent = .ok s ∧ s.isDynamic = false
      ∧ s.renderWith (fun text vars => (vars text).elim (.error .nullIterable) .ok)
          [("a", .null)] = .error (.expression "text" "b" .nullIterable) := by
  have hfilter : readFilter Options.standard = .ok none := rfl
  obtain ⟨known, hbuild⟩ := build_of_static hfilter buildChildren_pairContent rfl
  obtain ⟨-, hstatic⟩ := build_renderWith_static Options.standard pairContent
    (fun text vars => (vars text).elim (.error .nullIterable) .ok) [("a", .null)]
  obtain ⟨-, -, herror⟩ := hstatic _ hbuild rfl
  refine ⟨_, hbuild, rfl, (herror _).mpr ⟨[⟨.property "a", none, []⟩], ⟨.property "b", none, []⟩,
    [], .nullIterable, rfl, fun earlier hm => ?_, rfl, rfl⟩⟩
  obtain rfl := List.mem_singleton.mp hm
  exact ⟨.null, rfl⟩

end Script

end DynamicSql
