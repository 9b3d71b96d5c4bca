/-
The iterations of a render: what they are called, and what they tell.

A render numbers its iterations in the order in which they are entered, also
those that write nothing and those of a render that fails
(`moments_numbered`). So the names that are made of these numbers are all
different: each is that of one variable of one iteration, and it stays that
when the iteration is over (`generatedNames_distinct`).

Each iteration tells once whether it has written something. One that has is
inside of others that have, and they tell it later
(`emission_inherited_outward`).
-/
import DynamicSql.Proofs.LoopVariable
import DynamicSql.Proofs.Render.Emission
import DynamicSql.Proofs.Script

namespace DynamicSql

open LoopVariable (uniqueName uniqueName_injective)

namespace Render

open Context (Change Report)

variable {t : List Moment}

/-- The name was made for a variable of the iteration that was entered after so
many others. -/
def Denotes (t : List Moment) (name : String) (i : Nat) (x : String) : Prop :=
  ∃ head n, (entered t)[i]? = some (head, n) ∧ x ∈ head.names ∧ name = uniqueName x n

theorem EnteredIn.denotes {f : LoopFrame} (h : EnteredIn t f) {x : String} (hx : x ∈ f.names) :
    ∃ i, Denotes t (uniqueName x f.unique) i x := by
  obtain ⟨head, hmem, hnames⟩ := h
  obtain ⟨i, hi⟩ := List.mem_iff_getElem?.mp hmem
  exact ⟨i, head, f.unique, hi, hnames ▸ hx, rfl⟩

/-- Where no two iterations have the same number, no two variables have the same
name. -/
theorem Denotes.unique (hnodup : ((entered t).map Prod.snd).Nodup) {name x y : String}
    {i j : Nat} (h : Denotes t name i x) (h' : Denotes t name j y) : i = j ∧ x = y := by
  obtain ⟨head, n, hi, -, rfl⟩ := h
  obtain ⟨head', n', hj, -, hname⟩ := h'
  obtain ⟨hxy, rfl⟩ := uniqueName_injective hname
  refine ⟨?_, hxy⟩
  have hnumber : ((entered t).map Prod.snd)[i]? = ((entered t).map Prod.snd)[j]? := by
    rw [List.getElem?_map, List.getElem?_map, hi, hj]
    rfl
  have hlt : i < ((entered t).map Prod.snd).length := by
    rw [List.length_map]
    exact (List.getElem?_eq_some_iff.mp hi).1
  exact (List.getElem?_inj hlt hnodup).mp hnumber

/-- Of the iterations around a point those that have written something are the
outer ones, and what an iteration tells of itself is told of those around it,
later. -/
structure EmitsOutward (c : Context) (changes : List Change) (d : Context) : Prop where
  outward : ∀ e ∈ c.passed changes,
    e.frames.Pairwise fun inner outer => inner.applied = true → outer.applied = true
  outermost : ∀ e ∈ c.passed changes,
    e.frames.reverse.filter LoopFrame.applied <+: e.frames.reverse
  /-- Each iteration tells once. -/
  once : ((c.reports changes).map Report.number).Perm (List.range d.iterations)
  later : ∀ p after, (p :: after) <:+ c.reports changes → p.wrote = true →
    ∀ k ∈ p.around, ∃ q ∈ after, q.number = k ∧ q.wrote = true

end Render

namespace Script

open Render (Moment Along Denotes EmitsOutward EnteredIn entered outcome)

/-- The course of the root in a setting. -/
def moments (s : Script) (setting : Setting) (arguments : Arguments) : List Moment :=
  (s.root.traced setting).trace (Context.start arguments)

/-- The context that the root leaves, whether it fails or not. -/
def left (s : Script) (setting : Setting) (arguments : Arguments) : Context :=
  (outcome (s.root.apply setting) (Context.start arguments)).2

/-- Iterations are numbered from zero. They are all over in the end, and those
around a moment were entered in the course. -/
theorem moments_numbered (s : Script) (setting : Setting) (arguments : Arguments) :
    (entered (s.moments setting arguments)).map Prod.snd
        = List.range (s.left setting arguments).iterations
      ∧ (s.left setting arguments).frames = []
      ∧ ∀ m ∈ s.moments setting arguments, ∀ f ∈ m.ctx.frames,
          EnteredIn (s.moments setting arguments) f := by
  have hcounted := Render.stepwise_counted.course_node (s := setting) [] s.root
    (fun _ _ => trivial) (Context.start arguments)
  refine ⟨?_, List.map_eq_nil_iff.mp hcounted.frames, fun m hm f hf => ?_⟩
  · refine hcounted.numbers.trans ?_
    rw [List.range_eq_range']
    rfl
  · rcases hcounted.origin m hm f hf with ⟨g, hg, -⟩ | hin
    · cases hg
    · exact hin

theorem exists_along (s : Script) (setting : Setting) (arguments : Arguments) :
    ∃ changes, Along (Context.start arguments) changes (s.moments setting arguments)
      (s.left setting arguments) :=
  Render.exists_along setting s.root (Context.start arguments)

-- ================================================================= names

/-- A loop variable has a name of its own in each iteration. The names of
different variables or different numbers are different, and no two iterations
of a render have the same number, be they of one loop or of several, side by
side or inside of each other. So a name that is made for a variable of one of
them is made for no other. The iterations around a moment are among them, each
of them once. -/
theorem generatedNames_distinct (s : Script) (setting : Setting) (arguments : Arguments) :
    (∀ x y m n, uniqueName x m = uniqueName y n → x = y ∧ m = n)
      ∧ ((entered (s.moments setting arguments)).map Prod.snd).Nodup
      ∧ (∀ name i x j y, Denotes (s.moments setting arguments) name i x →
          Denotes (s.moments setting arguments) name j y → i = j ∧ x = y)
      ∧ ∀ m ∈ s.moments setting arguments, (m.ctx.frames.map LoopFrame.unique).Nodup
          ∧ ∀ f ∈ m.ctx.frames, ∀ x ∈ f.names,
            ∃ i, Denotes (s.moments setting arguments) (uniqueName x f.unique) i x := by
  obtain ⟨hnumbers, -, haround⟩ := s.moments_numbered setting arguments
  obtain ⟨changes, halong⟩ := s.exists_along setting arguments
  have hconcentric := (Context.Concentric.start arguments).passed changes
  have hnodup : ((entered (s.moments setting arguments)).map Prod.snd).Nodup := by
    rw [hnumbers]
    exact List.nodup_range
  refine ⟨fun _ _ _ _ => uniqueName_injective, hnodup, ?_, ?_⟩
  · exact fun name i x j y h h' => h.unique hnodup h'
  · intro m hm
    refine ⟨(hconcentric _ (halong.ctx_mem_passed m hm)).nodup_unique, fun f hf x hx => ?_⟩
    exact (haround m hm f hf).denotes hx

/-- The head of a loop with an item alone. -/
def headOf (collection item : String) : Template.LoopHead :=
  ⟨collection, none, some item, none, none, none, none, none⟩

/-- A loop inside a loop. The item of the inner one is called as if it were that
of the outer one with a number. -/
def nestedScript : Script :=
  ⟨.sequence [.foreach (headOf "xs" "x") (.foreach (headOf "ys" "x_1") (.text "a"))],
    Options.standard, none, Evaluator.standard, none⟩

/-- Both loops of the script find one element. -/
def nestedSetting : Setting := nestedScript.settingWith fun _ _ => .ok (.list [.null])

/-- The name of the inner item is not one of the outer item, whatever the
number. -/
theorem generatedNames_distinct_of_nested :
    Denotes (nestedScript.moments nestedSetting []) "__frch_x_0" 0 "x"
      ∧ ∀ i y, Denotes (nestedScript.moments nestedSetting []) "__frch_x_1_1" i y →
          i = 1 ∧ y = "x_1" := by
  obtain ⟨-, -, hunique, -⟩ := generatedNames_distinct nestedScript nestedSetting []
  have hinner : Denotes (nestedScript.moments nestedSetting []) "__frch_x_1_1" 1 "x_1" :=
    ⟨headOf "ys" "x_1", 1, rfl, List.mem_singleton_self _, rfl⟩
  refine ⟨⟨headOf "xs" "x", 0, rfl, List.mem_singleton_self _, rfl⟩, fun i y h => ?_⟩
  exact hunique _ i y 1 "x_1" h hinner

-- ============================================================== emission

/-- Every render is made of changes, also one that fails. They lead from its
beginning to its end, and pass the contexts of its moments. In all contexts on
the way the iterations that have written something are the outer ones, and when
one tells that it has, those around it tell the same later. -/
theorem emission_inherited_outward (s : Script) (setting : Setting) (arguments : Arguments) :
    (∃ changes, Along (Context.start arguments) changes (s.moments setting arguments)
        (s.left setting arguments))
      ∧ ∀ changes, Along (Context.start arguments) changes (s.moments setting arguments)
          (s.left setting arguments) →
        (Context.start arguments).changed changes = s.left setting arguments
          ∧ (∀ m ∈ s.moments setting arguments,
              m.ctx ∈ (Context.start arguments).passed changes)
          ∧ EmitsOutward (Context.start arguments) changes (s.left setting arguments) := by
  obtain ⟨hnumbers, hframes, -⟩ := s.moments_numbered setting arguments
  have hstart := Context.Concentric.start arguments
  refine ⟨s.exists_along setting arguments, fun changes h => ?_⟩
  have hconcentric := hstart.passed changes
  have hperm := h.reports_perm
  rw [hnumbers, hframes, List.map_nil, List.append_nil] at hperm
  refine ⟨h.changed_eq, h.ctx_mem_passed, ?_⟩
  exact {
    outward := fun e he => (hconcentric e he).outward
    outermost := fun e he => (hconcentric e he).applied_isPrefix
    once := hperm.symm
    later := h.reported_outward hstart hframes }

/-- The inner iteration tells first, and the outer one tells the same. -/
theorem emission_inherited_outward_of_nested :
    ∃ changes, (Context.start []).reports changes = [⟨1, [0], true⟩, ⟨0, [], true⟩]
      ∧ EmitsOutward (Context.start []) changes (nestedScript.left nestedSetting [])
      ∧ ∃ q ∈ [(⟨0, [], true⟩ : Context.Report)], q.number = 0 ∧ q.wrote = true := by
  obtain ⟨-, hall⟩ := emission_inherited_outward nestedScript nestedSetting []
  have hlist : Along (Context.start []) [.ask "xs", .pushScope, .enter (some "x") none none,
      .put "__frch_x_0" .null, .put "x" .null, .ask "ys", .pushScope,
      .enter (some "x_1") none none, .put "__frch_x_1_1" .null, .put "x_1" .null, .append "a",
      .leave, .popScope, .leave, .popScope]
      (nestedScript.moments nestedSetting []) (nestedScript.left nestedSetting []) := by
    refine .node _ (.node _ (.change _ rfl ?_))
    refine .iteration (headOf "xs" "x") none ?_
    refine .change _ rfl (.change _ rfl (.node _ (.change _ rfl ?_)))
    refine .iteration (headOf "ys" "x_1") none ?_
    refine .change _ rfl (.change _ rfl (.node _ (.change _ rfl (.change _ rfl ?_))))
    exact .change _ rfl (.change _ rfl (.change _ rfl (.done _)))
  obtain ⟨-, -, hemits⟩ := hall _ hlist
  exact ⟨_, rfl, hemits, hemits.later ⟨1, [0], true⟩ _ List.suffix_rfl rfl 0
    (List.mem_singleton_self 0)⟩

end Script

end DynamicSql
