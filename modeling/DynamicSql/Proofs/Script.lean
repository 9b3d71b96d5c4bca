/-
How a render of a script comes about: from what is known of a static script,
or from the root applied to the arguments.

The theorems about renders speak of the root and of the contexts it leaves.
The equations here lead from there to what the caller of a script sees.

# Where the text comes from

The text of a static script was written when the script was built, without
arguments and without an evaluator to speak of. That of any other script is
written when it is rendered. Both times it is the root that is applied; what
differs is the setting and the context it begins in (`textSetting`,
`textStart`).
-/
import DynamicSql.Proofs.Render.Trace
import DynamicSql.Proofs.Template.Build
import DynamicSql.Script

namespace DynamicSql.Script

open Render (outcome)

variable {s : Script} {E : Evaluator} {arguments : Arguments}

/-- The setting in which the root is applied when the script is rendered. -/
def settingWith (s : Script) (E : Evaluator) : Setting :=
  setting s.options s.filter E s.isDynamic

theorem parts_resolved {known : StaticSql} (h : s.resolved = some known) :
    s.parts E arguments
      = (lookUp E arguments known.mappings).map fun values => (known, values) := by
  rw [parts, h]

theorem parts_of_apply_ok (h : s.resolved = none) {handled : Bool} {c : Context}
    (hrun : outcome (s.root.apply (s.settingWith E)) (Context.start arguments)
      = (.ok handled, c)) :
    s.parts E arguments = .ok (⟨c.sql, c.mappings⟩, c.values) := by
  have happlied : s.applied E arguments = .ok c := by
    show (match outcome (s.root.apply (s.settingWith E)) (Context.start arguments) with
      | (.ok _, ctx) => Except.ok ctx
      | (.error e, _) => .error e) = _
    rw [hrun]
  rw [parts, h]
  simp only [happlied]
  rfl

theorem parts_of_apply_error (h : s.resolved = none) {e : RenderError} {c : Context}
    (hrun : outcome (s.root.apply (s.settingWith E)) (Context.start arguments)
      = (.error e, c)) :
    s.parts E arguments = .error e := by
  have happlied : s.applied E arguments = .error e := by
    show (match outcome (s.root.apply (s.settingWith E)) (Context.start arguments) with
      | (.ok _, ctx) => Except.ok ctx
      | (.error e, _) => .error e) = _
    rw [hrun]
  rw [parts, h]
  simp only [happlied]
  rfl

/-- The parts that an action leaves in its context, unless it fails. -/
def gathered {α : Type} :
    Except RenderError α × Context → Except RenderError (StaticSql × List Value)
  | (.ok _, c) => .ok (⟨c.sql, c.mappings⟩, c.values)
  | (.error e, _) => .error e

theorem parts_unresolved (h : s.resolved = none) :
    s.parts E arguments
      = gathered (outcome (s.root.apply (s.settingWith E)) (Context.start arguments)) := by
  rcases hrun : outcome (s.root.apply (s.settingWith E)) (Context.start arguments)
    with ⟨e | handled, c⟩
  · exact parts_of_apply_error h hrun
  · exact parts_of_apply_ok h hrun

/-- The result that the text, the mappings and the values of a render
make. -/
def result (s : Script) (known : StaticSql) (values : List Value) : BoundSql :=
  ⟨known.sql,
    if s.isPrepared then some (known.mappings.zipWith Parameter.Bound.mk values) else none⟩

theorem renderWith_of_ok {known : StaticSql} {values : List Value}
    (h : s.parts E arguments = .ok (known, values)) :
    s.renderWith E arguments = .ok (s.result known values) := by
  rw [renderWith, h]
  rfl

theorem renderWith_of_error {e : RenderError} (h : s.parts E arguments = .error e) :
    s.renderWith E arguments = .error e := by
  rw [renderWith, h]
  rfl

/-- A render that succeeds has parts, and is made of them. -/
theorem parts_of_renderWith {b : BoundSql} (h : s.renderWith E arguments = .ok b) :
    ∃ known values, s.parts E arguments = .ok (known, values) ∧ b = s.result known values := by
  cases hp : s.parts E arguments with
  | error e =>
    rw [renderWith_of_error hp] at h
    cases h
  | ok p =>
    obtain ⟨known, values⟩ := p
    rw [renderWith_of_ok hp] at h
    exact ⟨known, values, rfl, (Except.ok.inj h).symm⟩

-- ================================================================ built

/-- What is known of a script that was built. -/
structure BuiltFrom (s : Script) (options : Options) (content : List Template.Tree) : Prop where
  options_eq : s.options = options
  evaluator_eq : s.evaluator = Evaluator.standard
  filter_eq : readFilter options = .ok s.filter
  root_eq : ∃ nodes, Template.buildChildren options content = .ok nodes
    ∧ s.root = .sequence nodes
  resolved_eq : if s.isDynamic then s.resolved = none
    else ∃ known, s.resolved = some known
      ∧ resolve (setting options s.filter Evaluator.standard false) s.root = .ok known

/-- Once filter and nodes are there, only the text of a static script can
fail. -/
theorem build_of_nodes {options : Options} {content : List Template.Tree}
    {filter : Option InjectionFilter} {nodes : List Template.Node}
    (hf : readFilter options = .ok filter)
    (hn : Template.buildChildren options content = .ok nodes) :
    build options content =
      if (Template.Node.sequence nodes).isDynamic then
        .ok ⟨.sequence nodes, options, filter, Evaluator.standard, none⟩
      else (resolve (setting options filter Evaluator.standard false) (.sequence nodes)).map
        fun known => ⟨.sequence nodes, options, filter, Evaluator.standard, some known⟩ := by
  unfold build
  rw [hf, hn]
  cases hd : (Template.Node.sequence nodes).isDynamic with
  | true =>
    simp only [bind, Except.bind, hd, if_true]
    rfl
  | false =>
    simp only [bind, Except.bind, hd, Bool.false_eq_true, if_false]
    cases resolve (setting options filter Evaluator.standard false) (.sequence nodes) <;> rfl

theorem build_eq_ok {options : Options} {content : List Template.Tree} :
    build options content = .ok s ↔ BuiltFrom s options content := by
  constructor
  · intro h
    cases hf : readFilter options with
    | error e =>
      unfold build at h
      rw [hf] at h
      cases h
    | ok filter =>
      cases hn : Template.buildChildren options content with
      | error e =>
        unfold build at h
        rw [hf, hn] at h
        cases h
      | ok nodes =>
        rw [build_of_nodes hf hn] at h
        split at h
        · next hd =>
          obtain rfl := Except.ok.inj h
          exact ⟨rfl, rfl, hf, ⟨nodes, hn, rfl⟩, (if_pos hd).mpr rfl⟩
        · next hd =>
          cases hr : resolve (setting options filter Evaluator.standard false)
              (.sequence nodes) with
          | error e =>
            rw [hr] at h
            cases h
          | ok known =>
            rw [hr] at h
            obtain rfl := Except.ok.inj h
            exact ⟨rfl, rfl, hf, ⟨nodes, hn, rfl⟩, (if_neg hd).mpr ⟨known, rfl, hr⟩⟩
  · rintro ⟨ho, he, hf, ⟨nodes, hn, hroot⟩, hres⟩
    obtain ⟨root, options', filter, evaluator, resolved⟩ := s
    obtain rfl : options' = options := ho
    obtain rfl : evaluator = Evaluator.standard := he
    obtain rfl : root = .sequence nodes := hroot
    rw [build_of_nodes hf hn]
    split
    · next hd =>
      obtain rfl : resolved = none := (if_pos hd).mp hres
      rfl
    · next hd =>
      obtain ⟨known, hknown, hr⟩ := (if_neg hd).mp hres
      obtain rfl : resolved = some known := hknown
      rw [hr]
      rfl

/-- The text of a static script is there if its root can be applied. -/
theorem resolve_eq_ok {setting : Setting} {root : Template.Node} {known : StaticSql} :
    resolve setting root = .ok known ↔
      ∃ handled d, outcome (root.apply setting) (Context.start []) = (.ok handled, d)
        ∧ known = ⟨d.sql, d.mappings⟩ := by
  have hresolve : resolve setting root
      = match outcome (root.apply setting) (Context.start []) with
        | (.ok _, d) => .ok ⟨d.sql, d.mappings⟩
        | (.error e, _) => .error (.render e) := rfl
  rw [hresolve]
  rcases outcome (root.apply setting) (Context.start []) with ⟨e | handled, d⟩
  · constructor
    · intro h
      cases h
    · rintro ⟨_, _, h, _⟩
      cases h
  · constructor
    · intro h
      exact ⟨handled, d, rfl, (Except.ok.inj h).symm⟩
    · rintro ⟨_, _, h, rfl⟩
      rw [Prod.mk.injEq] at h
      rw [h.2]

/-- The setting in which the text of a render is written. -/
def textSetting (s : Script) (E : Evaluator) : Setting :=
  s.settingWith (if s.isDynamic then E else Evaluator.standard)

/-- The context in which the text of a render is begun. -/
def textStart (s : Script) (arguments : Arguments) : Context :=
  if s.isDynamic then Context.start arguments else Context.start []

/-- The course in which the text of a render is written. -/
def course (s : Script) (E : Evaluator) (arguments : Arguments) : List Render.Moment :=
  (s.root.traced (s.textSetting E)).trace (s.textStart arguments)

/-- The values found by looking mappings up are as many as the mappings. -/
theorem length_lookUp {mappings : List Parameter.Mapping} {values : List Value}
    (h : lookUp E arguments mappings = .ok values) : values.length = mappings.length := by
  induction mappings generalizing values with
  | nil =>
    obtain rfl := Except.ok.inj h
    rfl
  | cons m rest ih =>
    simp only [lookUp] at h
    split at h
    · cases h
    · cases hr : lookUp E arguments rest with
      | error e => rw [hr] at h; cases h
      | ok others =>
        rw [hr] at h
        obtain rfl := Except.ok.inj h
        exact congrArg (· + 1) (ih hr)

/-- The text and the mappings of a render are those of the context that the
root leaves. The values are too, or they are looked up. -/
theorem BuiltFrom.parts_eq_ok {options : Options} {content : List Template.Tree}
    (hs : s.BuiltFrom options content) {known : StaticSql} {values : List Value} :
    s.parts E arguments = .ok (known, values) ↔
      ∃ handled d, outcome (s.root.apply (s.textSetting E)) (s.textStart arguments)
          = (.ok handled, d)
        ∧ known = ⟨d.sql, d.mappings⟩
        ∧ if s.isDynamic then values = d.values
          else lookUp E arguments d.mappings = .ok values := by
  have hres := hs.resolved_eq
  unfold textSetting textStart
  cases hd : s.isDynamic with
  | true =>
    rw [hd] at hres
    simp only [if_true] at hres ⊢
    rcases hrun : outcome (s.root.apply (s.settingWith E)) (Context.start arguments)
      with ⟨e | handled, d⟩
    · rw [parts_of_apply_error hres hrun]
      constructor
      · intro h
        cases h
      · rintro ⟨_, _, h, _⟩
        cases h
    · rw [parts_of_apply_ok hres hrun]
      constructor
      · intro h
        have hparts := Except.ok.inj h
        rw [Prod.mk.injEq] at hparts
        exact ⟨handled, d, rfl, hparts.1.symm, hparts.2.symm⟩
      · rintro ⟨_, _, h, rfl, rfl⟩
        rw [Prod.mk.injEq] at h
        rw [h.2]
  | false =>
    rw [hd] at hres
    simp only [Bool.false_eq_true, if_false] at hres ⊢
    obtain ⟨found, hfound, hr⟩ := hres
    rw [← hs.options_eq, ← hd] at hr
    obtain ⟨handled, d, hrun, rfl⟩ := resolve_eq_ok.mp hr
    rw [parts_resolved hfound]
    constructor
    · intro h
      cases hl : lookUp E arguments d.mappings with
      | error e =>
        rw [hl] at h
        cases h
      | ok vs =>
        rw [hl] at h
        have hparts := Except.ok.inj h
        rw [Prod.mk.injEq] at hparts
        obtain ⟨rfl, rfl⟩ := hparts
        exact ⟨handled, d, hrun, rfl, hl⟩
    · rintro ⟨_, _, h, rfl, hl⟩
      rw [settingWith, hrun, Prod.mk.injEq] at h
      obtain ⟨_, rfl⟩ := h
      rw [hl]
      rfl

/-- The mappings of bound parameters do not depend on the values beside
them. -/
theorem map_mapping_zipWith (ms : List Parameter.Mapping) (values : List Value) :
    (ms.zipWith Parameter.Bound.mk values).map Parameter.Bound.mapping
      = ms.take values.length := by
  induction ms generalizing values with
  | nil => exact List.take_nil.symm
  | cons m rest ih =>
    cases values with
    | nil => rfl
    | cons v values => exact congrArg (m :: ·) (ih values)

-- ============================================================ an example

/-- A loop that writes a parameter for each element. -/
def listContent : List Template.Tree :=
  [.element "foreach" [("collection", "xs"), ("item", "x"), ("separator", ",")]
    [.text "#\x7bx\x7d" none] none]

/-- The script that is built of it. -/
def listScript : Script :=
  ⟨.sequence [.foreach ⟨"xs", none, some "x", none, none, none, some ",", none⟩
      (.placeholders ⟨[.parameter ⟨.property "x", none, []⟩], none⟩)],
    Options.standard, none, Evaluator.standard, none⟩

theorem build_listContent : build Options.standard listContent = .ok listScript := by
  have hsplit : Segment.split (Template.usedText Options.standard "#\x7bx\x7d")
      = [.placeholder .parameter "x"] := by decide +kernel
  have htext := Template.Node.ofText_parameter hsplit rfl none
  have hnodes := Template.buildChildren_foreach (o := Options.standard)
    (show Template.LoopHead.read "foreach" [("collection", "xs"), ("item", "x"),
      ("separator", ",")] none = .ok _ from rfl) (Template.buildSiblings_text (by decide) htext)
  exact build_eq_ok.mpr ⟨rfl, rfl, rfl, ⟨_, hnodes, rfl⟩, rfl⟩

end DynamicSql.Script
