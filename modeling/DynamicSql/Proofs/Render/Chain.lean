/-
What a chain of conditions does.

The tests of a chain are asked in order, up to the first that holds or cannot
be evaluated. In between nothing happens but that they are asked, so all of
them are asked with the same variables in sight.

# The body that is taken

The body of the branch whose test holds does what the nodes it was built of do
as a root of their own. Three things are different there: the tests have been
asked before, the body may be run in a scope of its own, and there the nodes
bind their variables in that scope and not among the arguments. None of them
is seen by the nodes. This is again the relation of
`DynamicSql.Proofs.Render.ExtraScopes`: both runs go with a third one, in which
all branches have scopes.
-/
import DynamicSql.Proofs.Render.Choice
import DynamicSql.Proofs.Render.ExtraScopes

namespace DynamicSql.Render

open Context (Padded)
open Template (Node Body Branch)

variable {α β : Type} {s : Setting} {c : Context}

-- =============================================================== tests

section Branch

variable {tag test : String} {body : Render Unit} {next : Render Bool}

theorem outcome_branch_of_holds (h : s.evaluator.condition test c.vars = .ok true) :
    outcome (branch s tag test body next) c = outcome (handledBy body) (c.ask test) := by
  have htest : outcome (holds s tag test) c = (.ok true, c.ask test) := by
    rw [holds, outcome_ask, h]
    rfl
  rw [branch, outcome_bind_ok htest]
  rfl

theorem outcome_branch_of_passed (h : s.evaluator.condition test c.vars = .ok false) :
    outcome (branch s tag test body next) c = outcome next (c.ask test) := by
  have htest : outcome (holds s tag test) c = (.ok false, c.ask test) := by
    rw [holds, outcome_ask, h]
    rfl
  rw [branch, outcome_bind_ok htest]
  rfl

theorem outcome_branch_of_fails {e : EvalError}
    (h : s.evaluator.condition test c.vars = .error e) :
    outcome (branch s tag test body next) c = (.error (.expression tag test e), c.ask test) := by
  have htest : outcome (holds s tag test) c = (.error (.expression tag test e), c.ask test) := by
    rw [holds, outcome_ask, h]
    rfl
  rw [branch, outcome_bind_error htest]

end Branch

/-- Branches whose tests do not hold are passed by. -/
theorem outcome_applyAll_of_passed (next : Render Bool) {passed : List Branch}
    (h : ∀ b ∈ passed, s.evaluator.condition b.test c.vars = .ok false) (rest : List Branch) :
    outcome (Branch.applyAll s next (passed ++ rest)) c
      = outcome (Branch.applyAll s next rest) (c.askAll (passed.map Branch.test)) := by
  induction passed generalizing c with
  | nil => rw [List.map_nil, Context.askAll_nil, List.nil_append]
  | cons b passed ih =>
    obtain ⟨hb, hpassed⟩ := List.forall_mem_cons.mp h
    obtain ⟨tag, test, body, span⟩ := b
    rw [List.map_cons, Context.askAll_cons]
    exact (outcome_branch_of_passed hb).trans (ih hpassed)

/-- A chain runs the body of the first branch whose test holds. -/
theorem outcome_applyAll_of_taken {next : Render Bool} {passed later : List Branch} {b : Branch}
    (h : ∀ b ∈ passed, s.evaluator.condition b.test c.vars = .ok false)
    (hb : s.evaluator.condition b.test c.vars = .ok true) :
    outcome (Branch.applyAll s next (passed ++ b :: later)) c
      = outcome (handledBy (b.body.apply s))
          (c.askAll ((passed ++ [b]).map Branch.test)) := by
  obtain ⟨tag, test, body, span⟩ := b
  rw [outcome_applyAll_of_passed next h, List.map_append, List.map_singleton, Context.askAll_concat]
  exact outcome_branch_of_holds hb

/-- It fails with the first test that cannot be evaluated. -/
theorem outcome_applyAll_of_fails {next : Render Bool} {passed later : List Branch} {b : Branch}
    (h : ∀ b ∈ passed, s.evaluator.condition b.test c.vars = .ok false) {e : EvalError}
    (hb : s.evaluator.condition b.test c.vars = .error e) :
    outcome (Branch.applyAll s next (passed ++ b :: later)) c
      = (.error (.expression b.tag.name b.test e),
        c.askAll ((passed ++ [b]).map Branch.test)) := by
  obtain ⟨tag, test, body, span⟩ := b
  rw [outcome_applyAll_of_passed next h, List.map_append, List.map_singleton, Context.askAll_concat]
  exact outcome_branch_of_fails hb

-- =============================================================== bodies

/-- What is given back instead of the result does not matter to the
context. -/
theorem outcome_bind_pure (x : Render α) (b : β) (c : Context) :
    outcome (x >>= fun _ => pure b) c = ((outcome x c).1.map fun _ => b, (outcome x c).2) := by
  rw [outcome_bind]
  rcases outcome x c with ⟨e | a, d⟩ <;> rfl

/-- One node for several does what they do one after the other. -/
theorem outcome_discard_ofList (nodes : List Node) (c : Context) :
    outcome (discard ((Node.ofList nodes).apply s)) c = outcome (Node.applyAll s nodes) c := by
  have hsequence : outcome (discard ((Node.sequence nodes).apply s)) c
      = outcome (Node.applyAll s nodes) c := by
    show outcome (Node.applyAll s nodes >>= (fun _ => pure true) >>= fun _ => pure ()) c = _
    rw [outcome_bind_pure, outcome_bind_pure]
    rcases outcome (Node.applyAll s nodes) c with ⟨e | _, d⟩ <;> rfl
  match nodes with
  | [] => exact hsequence
  | [n] =>
    show outcome (discard (n.apply s)) c = outcome (discard (n.apply s) >>= fun _ => pure ()) c
    rw [outcome_bind_pure]
    rcases outcome (discard (n.apply s)) c with ⟨e | _, d⟩ <;> rfl
  | _ :: _ :: _ => exact hsequence

/-- The arguments after some expressions have been asked. -/
theorem padded_askAll (arguments : Arguments) (tests : List String) :
    Padded tests [] ((Context.start arguments).askAll tests) (Context.start arguments) where
  bare := by
    show Context.bare ⟨_, _, _, _, _, _, _, _, _, [] ++ tests⟩
      = Context.bare ⟨_, _, _, _, _, _, _, _, _, tests ++ []⟩
    rw [List.nil_append, List.append_nil]
  scopes := by
    have hstart : ((Context.start arguments).askAll tests).Layered [arguments] :=
      .of_eq (.start arguments) rfl rfl
    exact ⟨_, _, hstart, .start arguments,
      .bottom (List.cons_ne_nil _ _) (List.cons_ne_nil _ _) fun _ => rfl⟩

/-- A scope entered at the beginning, on the first side alone. -/
theorem padded_pushFirst {before : List String} {d : Context} (h : Padded before [] c d) :
    Padded before [] c.pushScope d where
  bare := h.bare
  scopes := by
    obtain ⟨layers, layers', hc, hd, hpadded⟩ := h.scopes
    cases hpadded with
    | bottom left right same =>
      exact ⟨_, _, hc.pushScope, hd, .bottom (List.cons_ne_nil _ _) right same⟩

/-- A body is run where the arguments are in sight, be it from inside a scope
of its own. -/
theorem outcome_ofList_padded (nodes : List Node) (arguments : Arguments) (tests : List String) :
    ∃ c₀, Padded tests [] c₀ (Context.start arguments)
      ∧ (outcome ((Body.ofList nodes).apply s) ((Context.start arguments).askAll tests)).1
          = (outcome (Node.applyAll s nodes) c₀).1
      ∧ (outcome ((Body.ofList nodes).apply s) ((Context.start arguments).askAll tests)).2.bare
          = (outcome (Node.applyAll s nodes) c₀).2.bare := by
  have happly : (Body.ofList nodes).apply s
      = inScope (Node.ofList nodes).containsBind (discard ((Node.ofList nodes).apply s)) := rfl
  have hstart := padded_askAll arguments tests
  rw [happly]
  cases (Node.ofList nodes).containsBind with
  | false =>
    refine ⟨_, hstart, ?_⟩
    rw [← outcome_discard_ofList]
    exact ⟨rfl, rfl⟩
  | true =>
    refine ⟨_, padded_pushFirst hstart, ?_⟩
    rw [← outcome_discard_ofList]
    exact ⟨rfl, rfl⟩

/-- Nodes that are run where the arguments are in sight do what they do at the
beginning. -/
theorem outcome_applyAll_padded {nodes : List Node} (h : ∀ n ∈ nodes, n.OwnsBinds)
    {arguments : Arguments} {before : List String}
    (hc : Padded before [] c (Context.start arguments)) :
    (outcome (Node.applyAll s nodes) c).1
        = (outcome (Node.applyAll s nodes) (Context.start arguments)).1
      ∧ (outcome (Node.applyAll s nodes) c).2.bare
        = ((outcome (Node.applyAll s nodes) (Context.start arguments)).2.askedAfter
            before).bare := by
  have hdecides : ∀ m ∈ Node.allWithin nodes, Indifferent.Decides m := by
    intro m hm
    obtain ⟨n, hn, hm⟩ := Node.mem_allWithin.mp hm
    exact h n hn m hm
  have hstep : ∀ before, InStep (Padded before []) (Node.applyAll s nodes)
      (Node.applyAll s (Node.allScopedEverywhere nodes)) := fun _ =>
    Indifferent.nodes s nodes hdecides [] fun _ => by simp
  obtain ⟨hresult, hafter⟩ := hstep before hc
  obtain ⟨hresult', hafter'⟩ := hstep [] (padded_refl (Context.stacked_start arguments))
  refine ⟨hresult.trans hresult'.symm, ?_⟩
  show _ = (outcome (Node.applyAll s nodes) (Context.start arguments)).2.bare.askedAfter before
  rw [hafter.bare, hafter'.bare]
  rfl

/-- The body that nodes make does what they do as a root. What it asks comes
after what was asked before. -/
theorem outcome_body_ofList {nodes : List Node} (h : ∀ n ∈ nodes, n.OwnsBinds)
    (arguments : Arguments) (tests : List String) :
    (outcome (handledBy ((Body.ofList nodes).apply s))
        ((Context.start arguments).askAll tests)).1
        = (outcome ((Node.sequence nodes).apply s) (Context.start arguments)).1
      ∧ (outcome (handledBy ((Body.ofList nodes).apply s))
          ((Context.start arguments).askAll tests)).2.bare
        = ((outcome ((Node.sequence nodes).apply s) (Context.start arguments)).2.askedAfter
            tests).bare := by
  obtain ⟨c, hpadded, hresult, hbare⟩ := outcome_ofList_padded (s := s) nodes arguments tests
  obtain ⟨hroot, hrootBare⟩ := outcome_applyAll_padded (s := s) h hpadded
  have hsequence : outcome ((Node.sequence nodes).apply s) (Context.start arguments)
      = outcome (Node.applyAll s nodes >>= fun _ => pure true) (Context.start arguments) := rfl
  rw [hsequence, outcome_bind_pure, handledBy, outcome_bind_pure, hresult, hroot]
  exact ⟨rfl, hbare.trans hrootBare⟩

end DynamicSql.Render
