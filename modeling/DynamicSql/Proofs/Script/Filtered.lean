/-
The injection filter of a script only restricts, and nothing passes by it.

A script is rendered with a filter and without one. The filter is any predicate
at all, be it one that no pattern stands for. What is compared with it are the
values that the render without a filter substitutes into texts
(`substituted`): with all of them accepted, the two renders are the same, and
else the one with the filter fails because of the first that is rejected.

# Where a filter comes from

A script keeps the filter with which it was built. Nothing else of it depends on
the filter: neither the nodes, nor the text that a static script has worked out
beforehand, which substitutes no values. So the scripts that are compared here
render as those that are built of the same content with the filter and without
it.
-/
import DynamicSql.Proofs.Render.Filtered
import DynamicSql.Proofs.Script.Static

namespace DynamicSql.Script

open Render (outcome Restricted Substitution)

variable {s : Script} {options : Options} {content : List Template.Tree}
  {E : Evaluator} {arguments : Arguments} {f : InjectionFilter}

/-- The script with another filter, or with none. -/
def withFilter (s : Script) (filter : Option InjectionFilter) : Script :=
  { s with filter := filter }

/-- The values that a render substitutes into texts, in order. -/
def substituted (s : Script) (E : Evaluator) (arguments : Arguments) : List Substitution :=
  Render.substituted (s.textSetting E) (s.course E arguments)

theorem settingWith_of_dynamic (h : s.isDynamic = true) :
    s.settingWith E = setting s.options s.filter E true := by
  rw [settingWith, h]

/-- They are those that the root substitutes among the arguments; if the script
is not dynamic, there are none. -/
theorem substituted_eq (s : Script) (E : Evaluator) (arguments : Arguments) :
    s.substituted E arguments
      = Render.substituted (setting s.options s.filter E true)
          ((s.root.traced (setting s.options s.filter E true)).trace
            (Context.start arguments)) := by
  rw [substituted, course, textSetting, textStart]
  cases hd : s.isDynamic with
  | true =>
    simp only [if_true]
    rw [settingWith_of_dynamic hd]
  | false => rw [Render.substituted_of_static hd, Render.substituted_of_static hd]

/-- What comes of a built script with another filter is what comes of its root
in the setting with that filter. -/
theorem BuiltFrom.parts_withFilter (hs : s.BuiltFrom options content)
    (filter : Option InjectionFilter) :
    (s.withFilter filter).parts E arguments
      = gathered (outcome (s.root.apply (setting s.options filter E true))
          (Context.start arguments)) := by
  have hres := hs.resolved_eq
  cases hd : s.isDynamic with
  | true =>
    rw [if_pos hd] at hres
    rw [parts_unresolved (s := s.withFilter filter) hres,
      settingWith_of_dynamic (s := s.withFilter filter) hd]
    rfl
  | false =>
    rw [if_neg (Bool.eq_false_iff.mp hd)] at hres
    obtain ⟨known, hknown, -⟩ := hres
    have hown : (s.withFilter filter).parts E arguments = s.parts E arguments := by
      rw [parts_resolved hknown, parts_resolved (s := s.withFilter filter) hknown]
    have hfree := Render.outcome_of_static (s := setting s.options s.filter E true) hd
    rw [hown, hs.parts_eq_interpreted, interpreted_eq_gathered]
    exact congrArg gathered ((hfree s.filter _).trans (hfree filter _).symm)

/-- What comes of the root is restricted by the values that the script
substitutes without a filter. -/
theorem restricted_root (s : Script) (f : InjectionFilter) (E : Evaluator)
    (arguments : Arguments) :
    Restricted f ((s.withFilter none).substituted E arguments)
      (outcome (s.root.apply (setting s.options none E true)) (Context.start arguments))
      (outcome (s.root.apply (setting s.options (some f) E true)) (Context.start arguments)) := by
  have hroot : Restricted f
      (Render.substituted (setting s.options none E true)
        ((s.root.traced (setting s.options none E true)).trace (Context.start arguments)))
      (outcome (s.root.traced (setting s.options none E true)).run (Context.start arguments))
      (outcome (s.root.traced (setting s.options (some f) E true)).run
        (Context.start arguments)) :=
    Render.restricts_node (setting s.options none E true) f s.root _
  rw [Template.Node.run_traced, Template.Node.run_traced] at hroot
  rw [substituted_eq]
  exact hroot

/-- Either no value is rejected, and then the filter makes no difference, or the
render fails because of the first one that is. -/
theorem BuiltFrom.parts_cases (hs : s.BuiltFrom options content) (f : InjectionFilter)
    (E : Evaluator) (arguments : Arguments) :
    (((s.withFilter none).substituted E arguments).find? (fun v => !f.accepts v.text) = none
        ∧ (s.withFilter (some f)).parts E arguments = (s.withFilter none).parts E arguments)
      ∨ ∃ v, ((s.withFilter none).substituted E arguments).find? (fun v => !f.accepts v.text)
            = some v
          ∧ (s.withFilter (some f)).parts E arguments
              = .error (.injectionRejected v.expression f.pattern) := by
  rw [hs.parts_withFilter, hs.parts_withFilter]
  rcases (restricted_root s f E arguments).cases with ⟨hnone, heq⟩ | ⟨v, hsome, hresult⟩
  · exact .inl ⟨hnone, congrArg gathered heq⟩
  · refine .inr ⟨v, hsome, ?_⟩
    rcases hrun : outcome (s.root.apply (setting s.options (some f) E true))
        (Context.start arguments) with ⟨r, c⟩
    rw [hrun] at hresult
    obtain rfl : r = _ := hresult
    rfl

-- ============================================================= building

/-- Another filter among the options is all that another filter in the script
is: the same content becomes a script that renders as this one does with it. -/
theorem BuiltFrom.exists_build_filter (hs : s.BuiltFrom options content) {text : Option String}
    {filter : Option InjectionFilter}
    (hread : readFilter { options with injectionFilter := text } = .ok filter) :
    ∃ b, build { options with injectionFilter := text } content = .ok b
      ∧ ∀ E arguments, b.renderWith E arguments = (s.withFilter filter).renderWith E arguments := by
  obtain ⟨nodes, hnodes, hroot⟩ := hs.root_eq
  have hblanks : ({ options with injectionFilter := text } : Options).preserveWhitespace
      = options.preserveWhitespace := rfl
  have hsame : Template.buildChildren { options with injectionFilter := text } content
      = .ok nodes := (Template.buildChildren_congr hblanks content).trans hnodes
  obtain ⟨b, hbuild⟩ : ∃ b, build { options with injectionFilter := text } content = .ok b := by
    cases hd : (Template.Node.sequence nodes).isDynamic with
    | true => exact ⟨_, (build_of_nodes hread hsame).trans (if_pos hd)⟩
    | false =>
      obtain ⟨known, hb⟩ := build_of_static hread hsame hd
      exact ⟨_, hb⟩
  have hb : b.BuiltFrom { options with injectionFilter := text } content :=
    build_eq_ok.mp hbuild
  obtain ⟨nodes', hnodes', hroot'⟩ := hb.root_eq
  obtain rfl : nodes' = nodes := Except.ok.inj (hnodes'.symm.trans hsame)
  have hfilter : b.filter = filter := Except.ok.inj (hb.filter_eq.symm.trans hread)
  have hroots : b.root = s.root := hroot'.trans hroot.symm
  refine ⟨b, hbuild, fun E arguments => ?_⟩
  have hparts : b.parts E arguments = (s.withFilter filter).parts E arguments := by
    rw [hs.parts_withFilter, hb.parts_eq_interpreted, interpreted_eq_gathered, hroots,
      hb.options_eq, hs.options_eq, hfilter]
    rfl
  have hresult : b.result = (s.withFilter filter).result := by
    unfold result isPrepared
    rw [hroots]
    rfl
  rw [renderWith_eq_map, renderWith_eq_map, hparts, hresult]

-- ============================================================ rendering

/-- The first value that is rejected stands behind accepted ones. -/
theorem find?_eq_some_iff_rejected {values : List Substitution} {v : Substitution} :
    values.find? (fun v => !f.accepts v.text) = some v ↔
      ∃ before after, values = before ++ v :: after
        ∧ (∀ x ∈ before, f.accepts x.text = true) ∧ f.accepts v.text = false := by
  rw [List.find?_eq_some_iff_append]
  constructor
  · rintro ⟨hrejected, before, after, hvalues, hbefore⟩
    exact ⟨before, after, hvalues, by simpa using hbefore, by simpa using hrejected⟩
  · rintro ⟨before, after, hvalues, hbefore, hrejected⟩
    exact ⟨by simpa using hrejected, before, after, hvalues, by simpa using hbefore⟩

/-- With a filter in it, a built script does what it does without one if every
value that it substitutes is accepted, and fails because of the first that is
not. -/
theorem build_renderWith_filter (hbuild : build options content = .ok s) :
    (∀ text filter, readFilter { options with injectionFilter := text } = .ok filter →
      ∃ b, build { options with injectionFilter := text } content = .ok b
        ∧ ∀ E arguments,
          b.renderWith E arguments = (s.withFilter filter).renderWith E arguments)
      ∧ ∀ (f : InjectionFilter) (E : Evaluator) (arguments : Arguments),
        (∀ r, (s.withFilter (some f)).renderWith E arguments = .ok r ↔
          (s.withFilter none).renderWith E arguments = .ok r
            ∧ ∀ v ∈ (s.withFilter none).substituted E arguments, f.accepts v.text = true)
        ∧ ∀ err, (s.withFilter (some f)).renderWith E arguments = .error err ↔
          ((s.withFilter none).renderWith E arguments = .error err
              ∧ ∀ v ∈ (s.withFilter none).substituted E arguments, f.accepts v.text = true)
            ∨ ∃ before v after,
              (s.withFilter none).substituted E arguments = before ++ v :: after
                ∧ (∀ x ∈ before, f.accepts x.text = true) ∧ f.accepts v.text = false
                ∧ err = .injectionRejected v.expression f.pattern := by
  have hs : s.BuiltFrom options content := build_eq_ok.mp hbuild
  refine ⟨fun text filter hread => hs.exists_build_filter hread, fun f E arguments => ?_⟩
  rw [renderWith_eq_map (s := s.withFilter (some f)), renderWith_eq_map (s := s.withFilter none)]
  rcases hs.parts_cases f E arguments with ⟨hnone, hparts⟩ | ⟨v, hsome, hparts⟩
  · have haccepted : ∀ v ∈ (s.withFilter none).substituted E arguments,
        f.accepts v.text = true := by simpa using hnone
    rw [hparts]
    refine ⟨fun r => ⟨fun h => ⟨h, haccepted⟩, And.left⟩, fun err =>
      ⟨fun h => .inl ⟨h, haccepted⟩, ?_⟩⟩
    rintro (⟨h, -⟩ | ⟨before, v, after, hvalues, -, hrejected, -⟩)
    · exact h
    · have hmem : v ∈ (s.withFilter none).substituted E arguments := by simp [hvalues]
      exact absurd (haccepted v hmem) (Bool.eq_false_iff.mp hrejected)
  · obtain ⟨before, after, hvalues, hbefore, hrejected⟩ := find?_eq_some_iff_rejected.mp hsome
    have hnone : ¬∀ v ∈ (s.withFilter none).substituted E arguments, f.accepts v.text = true :=
      fun haccepted => Bool.eq_false_iff.mp hrejected (haccepted v (by simp [hvalues]))
    rw [hparts]
    refine ⟨fun r => ⟨fun h => (nomatch h), fun h => absurd h.2 hnone⟩, fun err =>
      ⟨fun h => ?_, ?_⟩⟩
    · exact .inr ⟨before, v, after, hvalues, hbefore, hrejected, (Except.error.inj h).symm⟩
    · rintro (⟨-, haccepted⟩ | ⟨before', v', after', hvalues', hbefore', hrejected', rfl⟩)
      · exact absurd haccepted hnone
      · have hfirst := find?_eq_some_iff_rejected.mpr
          ⟨before', after', hvalues', hbefore', hrejected'⟩
        obtain rfl : v' = v := Option.some.inj (hfirst.symm.trans hsome)
        rfl

/-- A loop that substitutes each element. -/
def eachContent : List Template.Tree :=
  [.element "foreach" [("collection", "xs"), ("item", "x")] [.text "$\x7bx\x7d" none] none]

/-- The script that is built of it. -/
def eachScript : Script :=
  ⟨.sequence [.foreach ⟨"xs", none, some "x", none, none, none, none, none⟩
      (.placeholders ⟨[.interpolation "x"], none⟩)],
    Options.standard, none, Evaluator.standard, none⟩

theorem build_eachContent : build Options.standard eachContent = .ok eachScript := by
  have hsplit : Segment.split (Template.usedText Options.standard "$\x7bx\x7d")
      = [.placeholder .interpolation "x"] := by decide +kernel
  have htext : Template.Node.ofText (Template.usedText Options.standard "$\x7bx\x7d") none
      = .ok (.placeholders ⟨[.interpolation "x"], none⟩) := by
    rw [Template.Node.ofText, hsplit]
    rfl
  have hnodes := Template.buildChildren_foreach (o := Options.standard)
    (show Template.LoopHead.read "foreach" [("collection", "xs"), ("item", "x")] none = .ok _
      from rfl) (Template.buildSiblings_text (by decide) htext)
  exact build_eq_ok.mpr ⟨rfl, rfl, rfl, ⟨_, hnodes, rfl⟩, rfl⟩

/-- Of two elements the first one passes, and the second one is what the render
fails because of. Without the filter it gives both. -/
theorem renderWith_filter_of_second :
    (eachScript.withFilter (some ⟨"a", (· == "a")⟩)).renderWith
          (fun text vars => (vars text).elim (.error .nullIterable) .ok)
          [("xs", .list [.string "a", .string "b"])]
        = .error (.injectionRejected "x" "a")
      ∧ (eachScript.withFilter none).renderWith
          (fun text vars => (vars text).elim (.error .nullIterable) .ok)
          [("xs", .list [.string "a", .string "b"])] = .ok ⟨"a b", none⟩ := by
  obtain ⟨-, hrender⟩ := build_renderWith_filter build_eachContent
  obtain ⟨-, herror⟩ := hrender ⟨"a", (· == "a")⟩
    (fun text vars => (vars text).elim (.error .nullIterable) .ok)
    [("xs", .list [.string "a", .string "b"])]
  refine ⟨(herror _).mpr (.inr ⟨[⟨"x", .string "a"⟩], ⟨"x", .string "b"⟩, [], rfl, ?_, ?_, rfl⟩),
    rfl⟩
  · decide
  · decide

end DynamicSql.Script
