/-
What the renders of a script ask an evaluator, and what one that remembers
keeps of it.

The texts of a script are finitely many, and they are there when it is built.
Its renders ask for these and for names of single iterations, whatever the
arguments are, and what an evaluator says of other texts changes nothing. An
evaluator that remembers keeps none of the names of single iterations. So what
it keeps after any number of renders is bounded by the script: it grows neither
with the renders nor with the lists that loops run over.

# Two ways of asking

A static script is looked up, mapping by mapping and up to the first that
fails, and any other is rendered by applying its root. What either asks for is
listed in the order in which it is asked (`handed`). For the result of a render
it makes no difference which of the two it is.
-/
import DynamicSql.Proofs.Render.Asked
import DynamicSql.Proofs.Script.Static

namespace DynamicSql.Script

open LoopVariable (BeginsUnique)
open Render (outcome)

variable {s : Script} {options : Options} {content : List Template.Tree} {E E' : Evaluator}
  {arguments : Arguments}

/-- The texts of a script that are evaluated. -/
def texts (s : Script) : List String := s.root.parts.map Template.Part.text

/-- A text that renders of a script may ask for. -/
def MayAsk (s : Script) (text : String) : Prop := text ∈ s.texts ∨ BeginsUnique text

-- =============================================================== results

/-- The settings of a script whose values are collected, with either of two
evaluators. -/
def collecting (s : Script) (E E' : Evaluator) (first : Bool) : Setting :=
  setting s.options s.filter (if first then E else E') true

theorem agreeOn_collecting (h : ∀ text, s.MayAsk text → ∀ vars, E text vars = E' text vars) :
    Render.AgreeOn (s.collecting E E') s.MayAsk where
  same := ⟨rfl, rfl, rfl, rfl⟩
  answer := h
  unique _ hbegins := .inr hbegins

/-- Applied to arguments, the root sees only what may be asked. -/
theorem outcome_collecting (h : ∀ text, s.MayAsk text → ∀ vars, E text vars = E' text vars)
    (arguments : Arguments) :
    outcome (s.root.apply (setting s.options s.filter E true)) (Context.start arguments)
        = outcome (s.root.apply (setting s.options s.filter E' true)) (Context.start arguments)
      ∧ (outcome (s.root.apply (setting s.options s.filter E true))
          (Context.start arguments)).2.OnlyAsks s.MayAsk := by
  have hsees := (agreeOn_collecting h).apply s.root fun part hpart =>
    .inl (List.mem_map.mpr ⟨part, hpart, rfl⟩)
  have hstart : (Context.start arguments).OnlyAsks s.MayAsk := by
    intro text htext
    cases htext
  exact hsees.outcome_eq hstart

theorem BuiltFrom.renderWith_congr (hs : s.BuiltFrom options content)
    (h : ∀ text, s.MayAsk text → ∀ vars, E text vars = E' text vars) :
    s.renderWith E arguments = s.renderWith E' arguments := by
  rw [renderWith_eq_map, renderWith_eq_map, hs.parts_eq_interpreted, hs.parts_eq_interpreted,
    interpreted_eq_gathered, interpreted_eq_gathered, (outcome_collecting h arguments).1]

-- ============================================================== asked for

/-- What looking mappings up asks for: it ends at the first that fails. -/
def lookedUp (E : Evaluator) (arguments : Arguments) : List Parameter.Mapping → List String
  | [] => []
  | mapping :: rest =>
    mapping.source.text ::
      match E mapping.source.text (Bindings.find? arguments) with
      | .error _ => []
      | .ok _ => lookedUp E arguments rest

/-- The texts that a render hands to its evaluator, in order. -/
def handed (s : Script) (E : Evaluator) (arguments : Arguments) : List String :=
  match s.resolved with
  | some known => lookedUp E arguments known.mappings
  | none => (outcome (s.root.apply (s.settingWith E)) (Context.start arguments)).2.asked

theorem mem_lookedUp {mappings : List Parameter.Mapping} {text : String}
    (h : text ∈ lookedUp E arguments mappings) : ∃ m ∈ mappings, m.source.text = text := by
  induction mappings with
  | nil => cases h
  | cons m rest ih =>
    rw [lookedUp, List.mem_cons] at h
    rcases h with rfl | h
    · exact ⟨m, List.mem_cons_self, rfl⟩
    · split at h
      · cases h
      · obtain ⟨m', hm', htext⟩ := ih h
        exact ⟨m', List.mem_cons_of_mem _ hm', htext⟩

theorem text_mem_of_mem_parameters {m : Parameter.Mapping} (h : m ∈ s.root.parameters) :
    m.source.text ∈ s.texts := by
  obtain ⟨p, hp, hm⟩ := List.mem_filterMap.mp h
  refine List.mem_map.mpr ⟨p.part, List.mem_map.mpr ⟨p, hp, rfl⟩, ?_⟩
  cases hpart : p.part with
  | parameter m' =>
    rw [hpart] at hm
    rw [← Option.some.inj hm]
    rfl
  | interpolation | bind | test | loop =>
    rw [hpart] at hm
    cases hm

/-- A render asks for texts of its script and for names of single iterations. -/
theorem BuiltFrom.mayAsk_of_mem_handed (hs : s.BuiltFrom options content) {text : String}
    (h : text ∈ s.handed E arguments) : s.MayAsk text := by
  have hresolved := hs.resolved_eq
  unfold handed at h
  cases hd : s.isDynamic with
  | true =>
    rw [hd, if_pos rfl] at hresolved
    rw [hresolved, settingWith, hd] at h
    exact (outcome_collecting (fun _ _ _ => rfl) arguments).2 text h
  | false =>
    obtain ⟨handled, d, hrun, hmappings, -⟩ := hs.parts_static hd
    rw [hd, if_neg Bool.false_ne_true] at hresolved
    obtain ⟨known, hknown, hresolve⟩ := hresolved
    rw [hknown] at h
    obtain ⟨m, hm, rfl⟩ := mem_lookedUp h
    obtain ⟨_, d', hrun', rfl⟩ := resolve_eq_ok.mp hresolve
    rw [← hs.options_eq, hrun, Prod.mk.injEq] at hrun'
    obtain ⟨-, rfl⟩ := hrun'
    rw [hmappings] at hm
    exact .inl (text_mem_of_mem_parameters hm)

-- ================================================================= kept

/-- What an evaluator that remembers keeps of renders with these arguments,
one after the other. -/
def keptAfter (s : Script) (runs : List Arguments) : ExprCache :=
  ExprCache.empty.after (runs.flatMap (s.handed Evaluator.standard))

/-- A render sees of its evaluator what it says of the texts of the script and
of texts that begin with the name of a single iteration, and nothing else. So
an evaluator that remembers keeps texts of the script only, each at most once,
however many renders there are and whatever their arguments, and no render can
tell what it keeps. -/
theorem build_renderWith_asked (hbuild : build options content = .ok s) :
    (∀ (E E' : Evaluator) (arguments : Arguments),
        (∀ text, text ∈ s.texts ∨ BeginsUnique text → ∀ vars, E text vars = E' text vars) →
        s.renderWith E arguments = s.renderWith E' arguments)
      ∧ ∀ runs : List Arguments,
        (∀ text ∈ (s.keptAfter runs).texts, text ∈ s.texts)
          ∧ (s.keptAfter runs).size ≤ s.texts.length
          ∧ ∀ text vars, ((s.keptAfter runs).evaluate text vars).1
            = Evaluator.standard text vars := by
  have hs : s.BuiltFrom options content := build_eq_ok.mp hbuild
  refine ⟨fun E E' arguments h => hs.renderWith_congr h, fun runs => ?_⟩
  have hsound : (s.keptAfter runs).Sound := ExprCache.sound_empty.after _
  have hkept : ∀ text ∈ (s.keptAfter runs).texts, text ∈ s.texts := by
    intro text htext
    rcases ExprCache.mem_texts_after.mp htext with hempty | ⟨hasked, hkept⟩
    · cases hempty
    · obtain ⟨arguments, -, hhanded⟩ := List.mem_flatMap.mp hasked
      rcases hs.mayAsk_of_mem_handed hhanded with hmem | hbegins
      · exact hmem
      · simp [ExprCache.isKept, LoopVariable.isUnique_of_beginsUnique hbegins] at hkept
  exact ⟨hkept, hsound.size_le hkept, hsound.evaluate_fst⟩

/-- An evaluator that knows the texts of the loop and names of its iterations,
and nothing else. -/
def loopEvaluator : Evaluator := fun text vars =>
  if text ∈ listScript.texts ∨ LoopVariable.isUnique text = true then
    Evaluator.standard text vars
  else .error .nullIterable

/-- Whatever lists the loop runs over, two texts are kept at most, and an
evaluator that knows nothing else does as well. -/
theorem renderWith_asked_of_loop :
    (∀ arguments, listScript.renderWith loopEvaluator arguments
        = listScript.renderWith Evaluator.standard arguments)
      ∧ ∀ runs : List Arguments, (listScript.keptAfter runs).size ≤ 2
        ∧ ∀ text ∈ (listScript.keptAfter runs).texts, text = "xs" ∨ text = "x" := by
  obtain ⟨hrender, hkept⟩ := build_renderWith_asked build_listContent
  have htexts : listScript.texts = ["xs", "x"] := by decide +kernel
  refine ⟨fun arguments => hrender _ _ _ fun text htext vars => if_pos ?_, fun runs => ?_⟩
  · exact htext.imp_right LoopVariable.isUnique_of_beginsUnique
  · obtain ⟨hmem, hsize, -⟩ := hkept runs
    rw [htexts] at hmem hsize
    exact ⟨hsize, fun text htext => by simpa using hmem text htext⟩

end DynamicSql.Script
