/-
A render makes no more scopes than it is ever in at one time.

A loop over many elements enters a scope for each of them, and so does each
branch that binds variables. None of this adds up: the store has one scope for
the root and one for each depth that the render came to
(`Context.Sized`). That depth is bounded by the script, whatever the arguments
are. And since a scope is left however the body ends, a render that fails
leaves none behind either.
-/
import DynamicSql.Proofs.Render.Nesting
import DynamicSql.Proofs.Script

namespace DynamicSql

namespace Render

open Context (peak_le)
open Template (Node)

variable {c d : Context} {t : List Moment} {k : Nat}

/-- At each moment, and in the context that is left at the root, the store is
as large as the depth so far, which is at most the given one. -/
structure SizedThroughout (k : Nat) (t : List Moment) (d : Context) : Prop where
  moments : ∀ {before m later}, t = before ++ m :: later →
    m.ctx.Sized ((before ++ [m]).map Moment.ctx)
  left : d.Sized (t.map Moment.ctx)
  root : d.depth = 0
  bounded : d.scopes.scopes.length ≤ 1 + k

/-- What begins with the root alone has made as many scopes as it climbed. -/
theorem Climbs.sizedThroughout (h : Climbs k c t d) (hdepth : c.depth = 0)
    (halone : c.scopes.scopes.length = 1) : SizedThroughout k t d where
  moments {before m later} ht := by
    have hpaced := h.paced
    rw [ht, List.map_append, List.map_cons] at hpaced
    obtain ⟨htidy, hlength⟩ := hpaced.at_context
    refine htidy.sized ?_
    rw [List.map_append, List.map_singleton]
    omega
  left := by
    have hlength := h.length
    exact h.tidy.sized (by omega)
  root := h.depth.trans hdepth
  bounded := by
    have hpeak : Context.peak (t.map Moment.ctx) ≤ k := by
      refine peak_le (List.forall_mem_map.mpr fun m hm => ?_)
      have hbound := h.bound m hm
      omega
    have hlength := h.length
    omega

end Render

namespace Script

open Render (SizedThroughout outcome Moment)

/-- The scopes that are made depend on the depth alone: after any moves of a
context that was begun, those that would leave the root among them, and
throughout each render, be it that of a script with one evaluator or another.
However many iterations and branches are entered, there are no more than the
script has inside of each other. -/
theorem sized_by_depth (s : Script) (setting : Setting) (arguments : Arguments) :
    (∀ moves, ((Context.start arguments).afterMoves moves).Sized
        ((Context.start arguments).visited moves))
      ∧ SizedThroughout s.root.nesting
          ((s.root.traced setting).trace (Context.start arguments))
          (outcome (s.root.apply setting) (Context.start arguments)).2 := by
  have hclimbs := Template.Node.nests setting s.root _ (Context.Tidy.start arguments)
  rw [Template.Node.run_traced] at hclimbs
  exact ⟨Context.sized_afterMoves arguments, hclimbs.sizedThroughout rfl rfl⟩

/-- Three iterations share the one scope that is there besides the root. -/
theorem sized_by_depth_of_three_elements :
    ∃ d, outcome (listScript.root.apply (listScript.settingWith
          fun _ _ => .ok (.list [.null, .null, .null]))) (Context.start []) = (.ok true, d)
      ∧ d.iterations = 3 ∧ d.scopes.scopes.length = 2 ∧ d.scopes.pooled = 1 := by
  obtain ⟨-, hsized⟩ := sized_by_depth listScript
    (listScript.settingWith fun _ _ => .ok (.list [.null, .null, .null])) []
  have hlength := hsized.left.length
  have hpooled := hsized.left.pooled
  rw [hsized.root, hlength] at hpooled
  exact ⟨_, rfl, rfl, hlength, hpooled⟩

end Script

end DynamicSql
