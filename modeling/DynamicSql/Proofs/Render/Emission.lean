/-
Whether the iterations around a point have written something.

Text that is not blank counts for all iterations around it at once, and an
iteration that is entered has written nothing yet. So at every point of a
render those iterations around it that have written something are the outer
ones (`Context.Concentric`). What a change does to the iterations is said once
(`Context.loopStep`), and the invariants are read off it.

# Reports

An iteration tells whether it has written something when it is left, and
never again (`Along.reports_perm`). If it has, then so have all those around
it by then. They are still there, and what has been written stays written
(`Context.HasWritten`), so each of them tells the same when its turn comes,
which is later (`Along.reported_outward`).
-/
import DynamicSql.Proofs.Render.Changes
import DynamicSql.Proofs.Render.LoopNumbers

namespace DynamicSql

-- ============================================================== prefixes

/-- If whatever has the property is preceded by such alone, then those that
have it come first. -/
theorem filter_isPrefix_of_pairwise {α : Type} {p : α → Bool} {l : List α}
    (h : l.Pairwise fun a b => p b = true → p a = true) : l.filter p <+: l := by
  induction l with
  | nil => exact List.nil_prefix
  | cons a l ih =>
    obtain ⟨hfirst, hrest⟩ := List.pairwise_cons.mp h
    cases ha : p a with
    | true =>
      rw [List.filter_cons_of_pos ha]
      exact (List.prefix_cons_inj a).mpr (ih hrest)
    | false =>
      have hnone : (a :: l).filter p = [] := by
        rw [List.filter_cons_of_neg (Bool.eq_false_iff.mp ha), List.filter_eq_nil_iff]
        intro b hb hpb
        rw [hfirst b hb hpb] at ha
        cases ha
      rw [hnone]
      exact List.nil_prefix

namespace Context

open LoopFrame (unique)

variable {c d : Context} {k : Nat}

-- =============================================================== reports

/-- What an iteration tells when it is left. -/
structure Report where
  number : Nat
  /-- The iterations around it, the innermost first. -/
  around : List Nat
  /-- Text that is not blank was written in it. -/
  wrote : Bool
deriving DecidableEq, Repr

/-- The report that comes with a change. -/
def report? (c : Context) : Change → Option Report
  | .leave =>
    match c.frames with
    | [] => none
    | f :: outer => some ⟨f.unique, outer.map unique, c.hasApplied⟩
  | _ => none

/-- The reports on the way, in their order. -/
def reports (c : Context) : List Change → List Report
  | [] => []
  | ch :: rest => (c.report? ch).toList ++ (c.change ch).reports rest

-- ================================================================= steps

@[simp] theorem map_unique_settle (frames : List LoopFrame) :
    (settle frames).map unique = frames.map unique := List.map_map

/-- What a change does to the iterations around. -/
inductive LoopStep (c : Context) (ch : Change) : Prop
  | stay (frames : (c.change ch).frames = c.frames)
    (iterations : (c.change ch).iterations = c.iterations) (silent : c.report? ch = none)
  | settle (frames : (c.change ch).frames = settle c.frames)
    (iterations : (c.change ch).iterations = c.iterations) (silent : c.report? ch = none)
  | enter (f : LoopFrame) (frames : (c.change ch).frames = f :: c.frames)
    (fresh : f.applied = false) (number : f.unique = c.iterations)
    (iterations : (c.change ch).iterations = c.iterations + 1) (enters : ch.enters = true)
    (silent : c.report? ch = none)
  | leave (f : LoopFrame) (frames : c.frames = f :: (c.change ch).frames)
    (iterations : (c.change ch).iterations = c.iterations)
    (report : c.report? ch = some ⟨f.unique, (c.change ch).frames.map unique, f.applied⟩)

theorem loopStep (c : Context) (ch : Change) : LoopStep c ch := by
  cases ch with
  | append text =>
    have hiterations : (c.append text).iterations = c.iterations := by
      unfold append
      cases Text.allBlank text <;> cases text.isEmpty <;> rfl
    cases hblank : Text.allBlank text with
    | true =>
      refine .stay ?_ hiterations rfl
      show (c.append text).frames = _
      unfold append
      rw [if_pos hblank]
      cases text.isEmpty <;> rfl
    | false =>
      refine .settle ?_ hiterations rfl
      show (c.append text).frames = _
      unfold append
      rw [if_neg (Bool.eq_false_iff.mp hblank)]
      cases text.isEmpty <;> rfl
  | enter item index separator => exact .enter _ rfl rfl rfl rfl rfl rfl
  | leave =>
    cases hframes : c.frames with
    | nil =>
      refine .stay ?_ rfl ?_
      · show c.frames.tail = c.frames
        rw [hframes]
        rfl
      · unfold report?
        rw [hframes]
    | cons f outer =>
      have htail : (c.change .leave).frames = outer := congrArg List.tail hframes
      refine .leave f (by rw [hframes, htail]) rfl ?_
      rw [htail, report?, hasApplied, hframes]
  | ask | addValue | addMapping | put | pushScope | popScope | mark | restore =>
    exact .stay rfl rfl rfl

-- =============================================================== nesting

/-- The iterations around are inside of each other. -/
structure Concentric (c : Context) : Prop where
  /-- Where one has written something, so have those around it. -/
  outward : c.frames.Pairwise fun inner outer => inner.applied = true → outer.applied = true
  /-- An iteration has begun after those around it. -/
  newer : c.frames.Pairwise fun inner outer => outer.unique < inner.unique
  begun : ∀ f ∈ c.frames, f.unique < c.iterations

namespace Concentric

theorem start (arguments : Arguments) : (start arguments).Concentric := ⟨.nil, .nil, nofun⟩

theorem change (h : c.Concentric) (ch : Change) : (c.change ch).Concentric := by
  cases c.loopStep ch with
  | stay frames iterations =>
    constructor
    · rw [frames]
      exact h.outward
    · rw [frames]
      exact h.newer
    · rw [frames, iterations]
      exact h.begun
  | settle frames iterations =>
    constructor
    · rw [frames]
      exact List.pairwise_map.mpr (h.newer.imp fun _ _ => rfl)
    · rw [frames]
      exact List.pairwise_map.mpr h.newer
    · rw [frames, iterations]
      exact List.forall_mem_map.mpr h.begun
  | enter f frames fresh number iterations =>
    constructor
    · rw [frames]
      refine List.pairwise_cons.mpr ⟨fun g _ hf => ?_, h.outward⟩
      rw [fresh] at hf
      cases hf
    · rw [frames]
      refine List.pairwise_cons.mpr ⟨fun g hg => ?_, h.newer⟩
      rw [number]
      exact h.begun g hg
    · rw [frames, iterations]
      refine List.forall_mem_cons.mpr ⟨?_, fun g hg => Nat.lt_succ_of_lt (h.begun g hg)⟩
      rw [number]
      exact Nat.lt_succ_self _
  | leave f frames iterations =>
    obtain ⟨houtward, hnewer, hbegun⟩ := h
    rw [frames] at houtward hnewer hbegun
    refine ⟨houtward.of_cons, hnewer.of_cons, ?_⟩
    rw [iterations]
    exact fun g hg => hbegun g (List.mem_cons_of_mem f hg)

theorem passed (h : c.Concentric) (changes : List Change) :
    ∀ e ∈ c.passed changes, e.Concentric :=
  forall_mem_passed (fun ch hc => hc.change ch) h changes

/-- Counted from the outermost one, the iterations that have written something
come first. -/
theorem applied_isPrefix (h : c.Concentric) :
    c.frames.reverse.filter LoopFrame.applied <+: c.frames.reverse :=
  filter_isPrefix_of_pairwise (List.pairwise_reverse.mpr h.outward)

/-- No two iterations around have the same number. -/
theorem nodup_unique (h : c.Concentric) : (c.frames.map unique).Nodup :=
  List.pairwise_map.mpr (h.newer.imp fun hlt heq => Nat.ne_of_gt hlt heq)

end Concentric

-- ======================================================= what was written

/-- The iteration of that number has begun, and it has written something
unless it is over. -/
structure HasWritten (k : Nat) (c : Context) : Prop where
  begun : k < c.iterations
  applied : ∀ f ∈ c.frames, f.unique = k → f.applied = true

namespace HasWritten

theorem change (h : c.HasWritten k) (ch : Change) : (c.change ch).HasWritten k := by
  obtain ⟨hbegun, happlied⟩ := h
  cases c.loopStep ch with
  | stay frames iterations =>
    refine ⟨by rwa [iterations], ?_⟩
    rw [frames]
    exact happlied
  | settle frames iterations =>
    refine ⟨by rwa [iterations], ?_⟩
    rw [frames]
    exact List.forall_mem_map.mpr fun _ _ _ => rfl
  | enter f frames fresh number iterations =>
    refine ⟨by rw [iterations]; exact Nat.lt_succ_of_lt hbegun, ?_⟩
    rw [frames]
    refine List.forall_mem_cons.mpr ⟨fun hk => ?_, happlied⟩
    omega
  | leave f frames iterations =>
    refine ⟨by rwa [iterations], fun g hg => happlied g ?_⟩
    rw [frames]
    exact List.mem_cons_of_mem f hg

/-- It will report so. -/
theorem wrote_of_mem_reports (h : c.HasWritten k) (changes : List Change) :
    ∀ q ∈ c.reports changes, q.number = k → q.wrote = true := by
  induction changes generalizing c with
  | nil => exact nofun
  | cons ch rest ih =>
    refine List.forall_mem_append.mpr ⟨?_, ih (h.change ch)⟩
    cases c.loopStep ch with
    | stay _ _ silent | settle _ _ silent | enter _ _ _ _ _ _ silent =>
      rw [silent]
      exact nofun
    | leave f frames iterations report =>
      rw [report]
      refine List.forall_mem_singleton.mpr (h.applied f ?_)
      rw [frames]
      exact List.mem_cons_self ..

end HasWritten

/-- When an iteration is left that has written something, those around it have
written something as well. -/
theorem Concentric.hasWritten_of_leave (h : c.Concentric) {ch : Change} {f : LoopFrame}
    (frames : c.frames = f :: (c.change ch).frames) (hf : f.applied = true) :
    ∀ g ∈ (c.change ch).frames, (c.change ch).HasWritten g.unique := by
  have houtward := h.outward
  rw [frames] at houtward
  intro g hg
  exact ⟨(h.change ch).begun g hg, fun g' hg' _ => List.rel_of_pairwise_cons houtward hg' hf⟩

end Context

namespace Render

open Context (Change Report)
open LoopFrame (unique)

variable {c d : Context} {t : List Moment} {changes : List Change}

namespace Along

/-- The iterations that are around at first or are entered on the way are
those that report on the way or are around in the end, each of them once. -/
theorem reports_perm (h : Along c changes t d) :
    (c.frames.map unique ++ (entered t).map Prod.snd).Perm
      ((c.reports changes).map Report.number ++ d.frames.map unique) := by
  induction h with
  | done c => exact List.Perm.of_eq (List.append_nil _)
  | @change c d changes t ch hch _ ih =>
    show List.Perm _ (((c.report? ch).toList ++ _).map _ ++ _)
    cases c.loopStep ch with
    | stay frames _ silent =>
      rw [frames] at ih
      rw [silent]
      exact ih
    | settle frames _ silent =>
      rw [frames, Context.map_unique_settle] at ih
      rw [silent]
      exact ih
    | enter _ _ _ _ _ enters =>
      rw [hch] at enters
      cases enters
    | leave f frames _ report =>
      rw [report, frames]
      exact ih.cons f.unique
  | node _ _ ih => exact ih
  | parameter _ _ ih => exact ih
  | iteration head separator _ ih => exact List.perm_middle.trans ih

/-- Where no iteration is left in the end, each one around at first has told
on the way. -/
theorem exists_report (h : Along c changes t d) (hd : d.frames = []) {f : LoopFrame}
    (hf : f ∈ c.frames) : ∃ q ∈ c.reports changes, q.number = f.unique := by
  have hperm := h.reports_perm
  rw [hd, List.map_nil, List.append_nil] at hperm
  exact List.mem_map.mp (hperm.subset (List.mem_append_left _ (List.mem_map_of_mem hf)))

/-- When an iteration tells that it has written something, those around it
tell the same later. -/
theorem reported_outward (h : Along c changes t d) (hc : c.Concentric) (hd : d.frames = []) :
    ∀ p after, (p :: after) <:+ c.reports changes → p.wrote = true →
      ∀ k ∈ p.around, ∃ q ∈ after, q.number = k ∧ q.wrote = true := by
  induction h with
  | done c => exact fun p after hsuffix => nomatch List.suffix_nil.mp hsuffix
  | @change c d changes t ch hch h ih =>
    have hrest := ih (hc.change ch) hd
    have hreports : c.reports (ch :: changes)
        = (c.report? ch).toList ++ (c.change ch).reports changes := rfl
    cases c.loopStep ch with
    | stay _ _ silent | settle _ _ silent | enter _ _ _ _ _ _ silent =>
      rw [hreports, silent]
      exact hrest
    | leave f frames _ report =>
      intro p after hsuffix hwrote k hk
      rw [hreports, report] at hsuffix
      rcases List.suffix_cons_iff.mp hsuffix with heq | hsuffix
      -- the report of this change, with all others of the rest after it
      · obtain ⟨rfl, rfl⟩ := List.cons.inj heq
        obtain ⟨g, hg, rfl⟩ := List.mem_map.mp hk
        obtain ⟨q, hq, hnumber⟩ := h.exists_report hd hg
        have hwritten := hc.hasWritten_of_leave frames hwrote g hg
        exact ⟨q, hq, hnumber, hwritten.wrote_of_mem_reports changes q hq hnumber⟩
      · exact hrest p after hsuffix hwrote k hk
  | node _ _ ih => exact ih hc hd
  | parameter _ _ ih => exact ih hc hd
  | iteration head separator _ ih =>
    exact ih ((hc.change .pushScope).change (.enter head.item head.index separator)) hd

end Along

end Render

end DynamicSql
