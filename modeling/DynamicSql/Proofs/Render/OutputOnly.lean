/-
Chains, choices and loops leave nothing behind but output.

Whatever a tag does while it is applied, and however it fails, afterwards the
scopes in sight, their variables, the marks and the loops around are those
from before. Text, parameters and values were added at the end, and loops
around that owed a separator may have paid it (`OutputOnly`). A variable that
is bound in a branch or an iteration is gone with it.

# Where this comes from

Three facts are true of every node, and proved step by step: text, parameters
and loops only grow (`Grows`), marks are given back
(`DynamicSql.Proofs.Render.Choice`), and of the stack of scopes nothing
changes but the variables on top (`Topped`).

What is left is to see that the top does not change either. An iteration has
a scope of its own, and so has a branch that binds anything at any depth. A
branch without a scope of its own binds nothing, and then `Topped` says that
the top stays as well. That the scopes of branches are where they should be
is the work of whoever built the template (`Node.OwnsBinds`).
-/
import DynamicSql.Proofs.Render.Choice
import DynamicSql.Proofs.Render.LoopScope
import DynamicSql.Proofs.Scope.Outward

namespace DynamicSql

-- =============================================================== scopes

namespace ScopeTree

/-- The scopes of a stack are those on the way outward from its top. -/
theorem Chain.outward {tree : ScopeTree} {id : ScopeId} {vars : Bindings Value}
    {rest : ScopeStack} (h : tree.Chain ((id, vars) :: rest)) :
    tree.Outward id (ScopeStack.ids ((id, vars) :: rest)) := by
  induction rest generalizing id vars with
  | nil => exact .last (parent_of_getElem? h.1)
  | cons scope rest ih =>
    obtain ⟨up, vars'⟩ := scope
    exact .step (parent_of_getElem? h.1) (ih h.2)

/-- Two stores that hold the same stack have the same variables in its
scopes. -/
theorem Chain.localVars_eq {tree tree' : ScopeTree} {stack : ScopeStack}
    (h : tree.Chain stack) (h' : tree'.Chain stack) :
    ∀ id ∈ stack.ids, tree'.localVars id = tree.localVars id := by
  induction stack with
  | nil =>
    intro id hid
    cases hid
  | cons scope rest ih =>
    obtain ⟨top, vars⟩ := scope
    intro id hid
    rcases List.mem_cons.mp hid with rfl | hid
    · rw [localVars_of_getElem? h.1, localVars_of_getElem? h'.1]
    · exact ih h.2 h'.2 id hid

end ScopeTree

namespace LoopFrame

/-- At most the debt of the frame was paid. -/
def PaidTo (f g : LoopFrame) : Prop := g = f ∨ g = { f with applied := true }

theorem PaidTo.trans {f g k : LoopFrame} (h : f.PaidTo g) (h' : g.PaidTo k) : f.PaidTo k := by
  rcases h with rfl | rfl
  · exact h'
  · rcases h' with rfl | rfl
    · exact .inr rfl
    · exact .inr rfl

end LoopFrame

namespace Render

open Template (Node Body Branch Case LoopHead)

variable {α : Type} {s : Setting} {c d e : Context} {t t' : List Moment}

-- =============================================================== growing

/-- What the second context has more than the first comes after it. -/
structure Extends (c d : Context) : Prop where
  frames : List.Forall₂ LoopFrame.PaidTo c.frames d.frames
  fragments : c.fragments <+: d.fragments
  mappings : c.mappings <+: d.mappings
  values : c.values <+: d.values

theorem paidTo_refl (frames : List LoopFrame) : List.Forall₂ LoopFrame.PaidTo frames frames :=
  List.forall₂_same.mpr fun _ _ => .inl rfl

theorem paidTo_trans {fs gs ks : List LoopFrame} (h : List.Forall₂ LoopFrame.PaidTo fs gs)
    (h' : List.Forall₂ LoopFrame.PaidTo gs ks) : List.Forall₂ LoopFrame.PaidTo fs ks := by
  induction h generalizing ks with
  | nil => exact h'
  | cons hfirst _ ih =>
    cases h' with
    | cons hfirst' hrest' => exact .cons (hfirst.trans hfirst') (ih hrest')

theorem paidTo_settle (frames : List LoopFrame) :
    List.Forall₂ LoopFrame.PaidTo frames (Context.settle frames) :=
  List.forall₂_map_right_iff.mpr (List.forall₂_same.mpr fun _ _ => .inr rfl)

namespace Extends

theorem of_eq (hframes : d.frames = c.frames) (hfragments : d.fragments = c.fragments)
    (hmappings : d.mappings = c.mappings) (hvalues : d.values = c.values) : Extends c d where
  frames := by
    rw [hframes]
    exact paidTo_refl c.frames
  fragments := hfragments ▸ List.prefix_rfl
  mappings := hmappings ▸ List.prefix_rfl
  values := hvalues ▸ List.prefix_rfl

theorem trans (h : Extends c d) (h' : Extends d e) : Extends c e where
  frames := paidTo_trans h.frames h'.frames
  fragments := h.fragments.trans h'.fragments
  mappings := h.mappings.trans h'.mappings
  values := h.values.trans h'.values

theorem length_frames (h : Extends c d) : d.frames.length = c.frames.length :=
  h.frames.length_eq.symm

theorem append (c : Context) (text : String) : Extends c (c.append text) where
  frames := by
    unfold Context.append
    cases Text.allBlank text <;> cases text.isEmpty
    · exact paidTo_settle c.frames
    · exact paidTo_settle c.frames
    · exact paidTo_refl c.frames
    · exact paidTo_refl c.frames
  fragments := by
    unfold Context.append
    cases Text.allBlank text <;> cases text.isEmpty
    · exact (List.prefix_append _ _).trans (List.prefix_append _ _)
    · exact List.prefix_append _ _
    · exact List.prefix_append _ _
    · exact List.prefix_rfl
  mappings := Context.mappings_append c text ▸ List.prefix_rfl
  values := Context.values_append c text ▸ List.prefix_rfl

end Extends

/-- The course extends its context, and the loops around it are around all of
its moments. -/
structure Grows (c : Context) (t : List Moment) (d : Context) : Prop extends Extends c d where
  depth : ∀ m ∈ t, c.frames.length ≤ m.ctx.frames.length

namespace Grows

theorem trans (h : Grows c t d) (h' : Grows d t' e) : Grows c (t ++ t') e where
  toExtends := h.toExtends.trans h'.toExtends
  depth m hm := by
    rcases List.mem_append.mp hm with hm | hm
    · exact h.depth m hm
    · have hle := h'.depth m hm
      rw [h.length_frames] at hle
      exact hle

theorem cons (h : Grows c t d) {m : Moment} (hm : m.ctx = c) : Grows c (m :: t) d where
  toExtends := h.toExtends
  depth m' hm' := by
    rcases List.mem_cons.mp hm' with rfl | hm'
    · exact Nat.le_of_eq (by rw [hm])
    · exact h.depth m' hm'

/-- Within an iteration there is one more loop around. -/
theorem depth_iteration {head : LoopHead} {separator : Option String} {key item : Value}
    (h : Grows (enterElement c head separator key item) t d) :
    ∀ m ∈ t, c.frames.length < m.ctx.frames.length := by
  intro m hm
  have hle := h.depth m hm
  rw [frames_enterElement, List.length_cons] at hle
  exact hle

theorem iteration {head : LoopHead} {separator : Option String} {key item : Value}
    (h : Grows (enterElement c head separator key item) t d) :
    Grows c (.iteration head c :: t) d.leaveIteration := by
  have hframes := h.frames
  have hfragments := h.fragments
  have hmappings := h.mappings
  have hvalues := h.values
  rw [frames_enterElement] at hframes
  rw [fragments_enterElement] at hfragments
  rw [mappings_enterElement] at hmappings
  rw [values_enterElement] at hvalues
  have hinside : Grows c t d.leaveIteration := by
    refine ⟨⟨?_, hfragments, hmappings, hvalues⟩, fun m hm => Nat.le_of_lt (h.depth_iteration m hm)⟩
    show List.Forall₂ LoopFrame.PaidTo c.frames d.frames.tail
    cases hd : d.frames with
    | nil =>
      rw [hd] at hframes
      cases hframes
    | cons f frames =>
      rw [hd] at hframes
      exact (List.forall₂_cons.mp hframes).2
  exact hinside.cons rfl

end Grows

theorem stepwise_grows : Stepwise (fun _ => True) fun _ c t _ d => Grows c t d where
  stay _ := ⟨.of_eq rfl rfl rfl rfl, fun _ hm => nomatch hm⟩
  trans h h' := h.trans h'
  ask _ _ := ⟨.of_eq rfl rfl rfl rfl, fun _ hm => nomatch hm⟩
  addValue _ := ⟨⟨paidTo_refl _, List.prefix_rfl, List.prefix_rfl, List.prefix_append _ _⟩,
    fun _ hm => nomatch hm⟩
  collect _ _ h := ⟨⟨h.frames, h.fragments, h.mappings.trans (List.prefix_append _ _), h.values⟩,
    (h.cons rfl).depth⟩
  refuse _ h := h.cons rfl
  append text := ⟨.append _ text, fun _ hm => nomatch hm⟩
  put _ _ := ⟨.of_eq rfl rfl rfl rfl, fun _ hm => nomatch hm⟩
  node _ h := h.cons rfl
  scope h := ⟨⟨h.frames, h.fragments, h.mappings, h.values⟩, h.depth⟩
  iteration _ h := h.iteration
  mark _ := ⟨.of_eq rfl rfl rfl rfl, fun _ hm => nomatch hm⟩
  choice h := ⟨⟨h.frames, h.fragments, h.mappings, h.values⟩, h.depth⟩

-- ================================================= the scope on top

theorem stacked_putLoopVariable {id : ScopeId} {vars : Bindings Value} {rest : ScopeStack}
    (h : c.Stacked ((id, vars) :: rest)) (unique : Nat) (name : Option String) (value : Value) :
    ∃ vars', (c.putLoopVariable unique name value).Stacked ((id, vars') :: rest) := by
  cases name with
  | none => exact ⟨vars, h⟩
  | some name => exact ⟨_, (h.put _ value).put name value⟩

/-- An iteration has a scope of its own. -/
theorem exists_stacked_enterElement {stack : ScopeStack} (h : c.Stacked stack) (head : LoopHead)
    (separator : Option String) (key item : Value) :
    ∃ id vars, (enterElement c head separator key item).Stacked ((id, vars) :: stack) := by
  obtain ⟨id, hpush⟩ := h.pushScope
  have henter : (c.enterIteration head.item head.index separator).Stacked
      ((id, []) :: stack) := hpush
  obtain ⟨vars, hindex⟩ := stacked_putLoopVariable henter c.iterations head.index key
  obtain ⟨vars', hitem⟩ := stacked_putLoopVariable hindex c.iterations head.item item
  exact ⟨id, vars', hitem⟩

/-- Of the scopes in sight nothing is changed but the variables of the top
one, and not even those if nothing can be bound. At every moment in between
the scopes in sight are a stack. -/
structure Topped (still : Prop) (c : Context) (t : List Moment) (d : Context) : Prop where
  scopes : ∀ {id vars rest}, c.Stacked ((id, vars) :: rest) →
    ∃ vars', d.Stacked ((id, vars') :: rest) ∧ (still → vars' = vars)
  moments : ∀ {stack}, c.Stacked stack → ∀ m ∈ t, ∃ stack', m.ctx.Stacked stack'

namespace Topped

variable {still : Prop} {stack : ScopeStack}

theorem of_eq (hscopes : d.scopes = c.scopes) (hcurrent : d.current = c.current) :
    Topped still c [] d where
  scopes {_ vars _} hc := by
    refine ⟨vars, ⟨?_, ?_⟩, fun _ => rfl⟩
    · rw [hscopes]
      exact hc.1
    · rw [hcurrent]
      exact hc.2
  moments _ _ hm := nomatch hm

/-- Begun with the scopes of a stack, a course ends with those of one. -/
theorem stacked (h : Topped still c t d) (hc : c.Stacked stack) :
    ∃ stack', d.Stacked stack' ∧ (still → stack' = stack) := by
  cases stack with
  | nil => cases hc.2
  | cons scope rest =>
    obtain ⟨id, vars⟩ := scope
    obtain ⟨vars', hd, hsame⟩ := h.scopes hc
    exact ⟨_, hd, fun hstill => by rw [hsame hstill]⟩

theorem trans (h : Topped still c t d) (h' : Topped still d t' e) :
    Topped still c (t ++ t') e where
  scopes hc := by
    obtain ⟨vars', hd, hsame⟩ := h.scopes hc
    obtain ⟨vars'', he, hsame'⟩ := h'.scopes hd
    exact ⟨vars'', he, fun hstill => (hsame' hstill).trans (hsame hstill)⟩
  moments hc m hm := by
    obtain ⟨stack', hd, -⟩ := h.stacked hc
    rcases List.mem_append.mp hm with hm | hm
    · exact h.moments hc m hm
    · exact h'.moments hd m hm

theorem cons (h : Topped still c t d) {m : Moment} (hm : m.ctx = c) :
    Topped still c (m :: t) d where
  scopes := h.scopes
  moments hc m' hm' := by
    rcases List.mem_cons.mp hm' with rfl | hm'
    · rw [hm]
      exact ⟨_, hc⟩
    · exact h.moments hc m' hm'

theorem scope (h : Topped still c.pushScope t d) : Topped True c t d.popScope where
  scopes {_ vars _} hc := by
    obtain ⟨inner, hpush⟩ := hc.pushScope
    obtain ⟨vars', hd, -⟩ := h.scopes hpush
    exact ⟨vars, hd.popScope, fun _ => rfl⟩
  moments hc := by
    obtain ⟨inner, hpush⟩ := hc.pushScope
    exact h.moments hpush

theorem iteration {head : LoopHead} {separator : Option String} {key item : Value}
    (h : Topped still (enterElement c head separator key item) t d) :
    Topped True c (.iteration head c :: t) d.leaveIteration := by
  have hinside : Topped True c t d.leaveIteration := by
    refine ⟨fun {_ vars _} hc => ?_, fun hc => ?_⟩
    · obtain ⟨inner, own, henter⟩ := exists_stacked_enterElement hc head separator key item
      obtain ⟨own', hd, -⟩ := h.scopes henter
      exact ⟨vars, hd.popScope, fun _ => rfl⟩
    · obtain ⟨inner, own, henter⟩ := exists_stacked_enterElement hc head separator key item
      exact h.moments henter
  exact hinside.cons rfl

/-- What leaves all variables as they are does so whatever can be bound. -/
theorem weaken (h : Topped True c t d) : Topped still c t d where
  scopes hc := by
    obtain ⟨vars', hd, hsame⟩ := h.scopes hc
    exact ⟨vars', hd, fun _ => hsame trivial⟩
  moments := h.moments

end Topped

theorem stepwise_topped {Allowed : Template.Place → Prop} {still : Prop}
    (hstill : still → ∀ around b, ¬Allowed ⟨around, .bind b⟩) :
    Stepwise Allowed fun _ c t _ d => Topped still c t d where
  stay _ := .of_eq rfl rfl
  trans h h' := h.trans h'
  ask _ _ := .of_eq rfl rfl
  addValue _ := .of_eq rfl rfl
  collect _ _ h := ⟨h.scopes, (h.cons rfl).moments⟩
  refuse _ h := h.cons rfl
  append {_ c} text := by
    have hsilence := Context.silence_append c text
    exact .of_eq (congrArg Context.scopes hsilence :) (congrArg Context.current hsilence :)
  put {around _ b} value ha := by
    refine ⟨fun hc => ?_, fun _ _ hm => nomatch hm⟩
    exact ⟨_, hc.put b.name value, fun h => absurd ha (hstill h around b)⟩
  node _ h := h.cons rfl
  scope h := h.scope.weaken
  iteration _ h := h.iteration.weaken
  mark _ := .of_eq rfl rfl
  choice h := ⟨h.scopes, h.moments⟩

-- ============================================================== actions

/-- Afterwards nothing is different but the output: the scopes in sight, their
variables and the marks are as before, loops around may have paid what they
owed, and what was written and collected comes after what was there. -/
structure OutputOnly (c d : Context) : Prop extends Extends c d where
  current : d.current = c.current
  chain : ∃ path, c.scopes.Outward c.current path ∧ d.scopes.Outward d.current path
    ∧ ∀ id ∈ path, d.scopes.localVars id = c.scopes.localVars id
  vars : d.vars = c.vars
  matched : d.matched = c.matched
  broke : d.broke = c.broke

/-- An action that does nothing but output. -/
structure OnlyWrites (x : Traced α) : Prop where
  grows : Follows (fun _ c t _ d => Grows c t d) [] x
  topped : Follows (fun _ c t _ d => Topped True c t d) [] x
  marks : LeavesMarks x

theorem outputOnly_of_stacked {stack : ScopeStack} (hextends : Extends c d)
    (hc : c.Stacked stack) (hd : d.Stacked stack) (hmatched : d.matched = c.matched)
    (hbroke : d.broke = c.broke) : OutputOnly c d := by
  have hcurrent : d.current = c.current :=
    Option.some.inj (hd.2.symm.trans hc.2)
  refine ⟨hextends, hcurrent, ⟨stack.ids, ?_, ?_, ?_⟩, ?_, hmatched, hbroke⟩
  · cases stack with
    | nil => cases hc.2
    | cons scope rest =>
      obtain ⟨id, vars⟩ := scope
      rw [hc.current]
      exact hc.1.chain.outward
  · cases stack with
    | nil => cases hd.2
    | cons scope rest =>
      obtain ⟨id, vars⟩ := scope
      rw [hd.current]
      exact hd.1.chain.outward
  · exact hc.1.chain.localVars_eq hd.1.chain
  · funext name
    rw [hd.vars_eq, hc.vars_eq]

theorem OnlyWrites.outputOnly {x : Traced α} (h : OnlyWrites x) {stack : ScopeStack}
    (hc : c.Stacked stack) : OutputOnly c (outcome x.run c).2 := by
  obtain ⟨stack', hd, hsame⟩ := (h.topped c).stacked hc
  rw [hsame trivial] at hd
  exact outputOnly_of_stacked (h.grows c).toExtends hc hd (h.marks c).matched (h.marks c).broke

namespace OutputOnly

theorem refl {stack : ScopeStack} (hc : c.Stacked stack) : OutputOnly c c :=
  outputOnly_of_stacked (.of_eq rfl rfl rfl rfl) hc hc rfl rfl

theorem trans (h : OutputOnly c d) (h' : OutputOnly d e) : OutputOnly c e where
  toExtends := h.toExtends.trans h'.toExtends
  current := h'.current.trans h.current
  chain := by
    obtain ⟨path, hc, hd, hsame⟩ := h.chain
    obtain ⟨path', hd', he, hsame'⟩ := h'.chain
    obtain rfl := hd.unique hd'
    exact ⟨path, hc, he, fun id hid => (hsame' id hid).trans (hsame id hid)⟩
  vars := h'.vars.trans h.vars
  matched := h'.matched.trans h.matched
  broke := h'.broke.trans h.broke

end OutputOnly

/-- Whatever is bound, only the scope on top is concerned. -/
theorem stepwise_topped_any :
    Stepwise (fun _ => True) fun _ c t _ d => Topped False c t d :=
  stepwise_topped fun h => h.elim

/-- Where nothing is bound, no scope is concerned. -/
theorem stepwise_topped_still :
    Stepwise (fun p => p.part.NoBind) fun _ c t _ d => Topped True c t d :=
  stepwise_topped fun _ _ b h => h b rfl

namespace OnlyWrites

theorem pure (a : α) : OnlyWrites (Pure.pure a : Traced α) where
  grows := stepwise_grows.follows_pure a
  topped := stepwise_topped_still.follows_pure a
  marks := coursewise_unmarked.follows_pure a

theorem bind {β : Type} {x : Traced α} {f : α → Traced β} (hx : OnlyWrites x)
    (hf : ∀ a, OnlyWrites (f a)) : OnlyWrites (x >>= f) where
  grows := stepwise_grows.follows_bind hx.grows fun a => (hf a).grows
  topped := stepwise_topped_still.follows_bind hx.topped fun a => (hf a).topped
  marks := coursewise_unmarked.follows_bind hx.marks fun a => (hf a).marks

end OnlyWrites

-- =============================================================== bodies

/-- The body of a branch, if it has a scope of its own for what it binds. -/
theorem onlyWrites_body {b : Body} (hb : b.ownScope = b.containsBind) :
    OnlyWrites (b.traced s) where
  grows := stepwise_grows.follows_body [] b fun _ _ => trivial
  topped := by
    obtain ⟨own, n⟩ := b
    cases own with
    | true =>
      have hinside : Follows (fun _ c t _ d => Topped False c t d) []
          (Traced.ignoring (n.traced s)) :=
        stepwise_topped_any.follows_bind (stepwise_topped_any.follows_node [] n fun _ _ => trivial)
          fun _ => stepwise_topped_any.follows_pure ()
      exact fun c => (hinside c.pushScope).scope
    | false =>
      exact stepwise_topped_still.follows_body [] _ fun p hp =>
        Body.noBind_of_mem_places _ hb.symm hp
  marks := leavesMarks_body s b

-- ================================================================ loops

/-- What is asked of the body of a loop. Whatever it binds is gone with its
iteration. -/
structure LoopBody (x : Traced Unit) : Prop where
  grows : Follows (fun _ c t _ d => Grows c t d) [] x
  topped : Follows (fun _ c t _ d => Topped False c t d) [] x
  marks : LeavesMarks x

theorem loopBody_node (s : Setting) (n : Node) : LoopBody (Traced.ignoring (n.traced s)) where
  grows := stepwise_grows.follows_bind
    (stepwise_grows.follows_node [] n fun _ _ => trivial) fun _ => stepwise_grows.follows_pure ()
  topped := stepwise_topped_any.follows_bind
    (stepwise_topped_any.follows_node [] n fun _ _ => trivial)
    fun _ => stepwise_topped_any.follows_pure ()
  marks := coursewise_unmarked.follows_bind (leavesMarks_node s n)
    fun _ => coursewise_unmarked.follows_pure ()

/-- The contexts in which iterations begin that have just so many loops
around. -/
def starts (depth : Nat) (moments : List Moment) : List Context :=
  moments.filterMap fun
    | .iteration _ e => if e.frames.length = depth then some e else none
    | _ => none

theorem mem_starts {depth : Nat} :
    e ∈ starts depth t ↔ e.frames.length = depth ∧ ∃ head, .iteration head e ∈ t := by
  rw [starts, List.mem_filterMap]
  constructor
  · rintro ⟨moment, hmem, hsome⟩
    cases moment with
    | node n ctx => cases hsome
    | parameter mapping ctx => cases hsome
    | iteration head ctx =>
      by_cases hdepth : ctx.frames.length = depth
      · simp only [hdepth, if_true] at hsome
        obtain rfl := Option.some.inj hsome
        exact ⟨hdepth, head, hmem⟩
      · simp only [hdepth, if_false] at hsome
        cases hsome
  · rintro ⟨hdepth, head, hmem⟩
    exact ⟨_, hmem, if_pos hdepth⟩

theorem starts_append (depth : Nat) (t t' : List Moment) :
    starts depth (t ++ t') = starts depth t ++ starts depth t' := List.filterMap_append

/-- Where there are more loops around all moments, none of the iterations is
meant. -/
theorem starts_of_deeper {depth : Nat} (h : ∀ m ∈ t, depth < m.ctx.frames.length) :
    starts depth t = [] := by
  refine List.eq_nil_iff_forall_not_mem.mpr fun e he => ?_
  obtain ⟨hdepth, head, hmem⟩ := mem_starts.mp he
  have hlt : depth < e.frames.length := h _ hmem
  omega

section Iterations

variable {head : LoopHead} {body : Traced Unit}

/-- Within an iteration, none begins that has as many loops around. -/
theorem starts_iteration (hbody : LoopBody body) (separator : Option String) (key item : Value)
    (c : Context) :
    starts c.frames.length ((Traced.iteration head separator key item body).trace c) = [c] := by
  have hcourse := course_iteration (Traced.Course.intro body
    (enterElement c head separator key item))
  have hinside : starts c.frames.length (body.trace (enterElement c head separator key item)) = [] :=
    starts_of_deeper (hbody.grows _).depth_iteration
  have hfirst : starts c.frames.length [.iteration head c] = [c] := by
    simp [starts]
  rw [hcourse.trace_eq, ← List.singleton_append, starts_append, hinside, hfirst]
  rfl

theorem onlyWrites_iteration (hbody : LoopBody body) (separator : Option String)
    (key item : Value) : OnlyWrites (Traced.iteration head separator key item body) where
  grows := stepwise_grows.follows_iteration trivial hbody.grows
  topped c := by
    have hcourse := course_iteration (Traced.Course.intro body
      (enterElement c head separator key item))
    rw [hcourse.trace_eq, hcourse.outcome_eq]
    exact (hbody.topped _).iteration
  marks := coursewise_unmarked.follows_iteration trivial hbody.marks

theorem onlyWrites_iterations (hbody : LoopBody body) (found : List Element) (wrote : Bool)
    (position : Nat) : OnlyWrites (Traced.iterations head body wrote position found) := by
  induction found generalizing wrote position with
  | nil => exact .pure ()
  | cons element rest ih =>
    exact (onlyWrites_iteration hbody _ _ _).bind fun applied => ih (wrote || applied) (position + 1)

/-- Each iteration of a loop begins as the loop did, but for the output of
those before it. -/
theorem outputOnly_of_mem_iterations (hbody : LoopBody body) {stack : ScopeStack}
    (hc : c.Stacked stack) {found : List Element} {wrote : Bool} {position : Nat}
    (he : e ∈ starts c.frames.length
      ((Traced.iterations head body wrote position found).trace c)) : OutputOnly c e := by
  induction found generalizing c wrote position with
  | nil => cases he
  | cons element rest ih =>
    rcases hkey : keyAndItem position element with ⟨key, item⟩
    simp only [Traced.iterations, hkey, Traced.trace_bind, starts_append] at he
    generalize (if wrote then head.separator else none) = separator at he
    rw [starts_iteration hbody] at he
    rcases List.mem_cons.mp he with rfl | he
    · exact .refl hc
    · have hfirst : OnlyWrites (Traced.iteration head separator key item body) :=
        onlyWrites_iteration hbody separator key item
      have hd := hfirst.outputOnly hc
      obtain ⟨stack', hstack, hsame⟩ := (hfirst.topped c).stacked hc
      rw [hsame trivial] at hstack
      rcases hrun : outcome (Traced.iteration head separator key item body).run c with ⟨r, d⟩
      rw [hrun] at hd hstack
      cases r with
      | error error =>
        rw [Traced.after_error hrun] at he
        cases he
      | ok applied =>
        rw [Traced.after_ok hrun, ← hd.length_frames] at he
        exact hd.trans (ih hstack he)

end Iterations

-- ================================================================ nodes

/-- Chains, choices and loops do nothing but output, if every branch that binds
anything has a scope of its own. -/
theorem onlyWrites_node {n : Node} (hn : n.isControl = true)
    (hbodies : ∀ b ∈ n.bodies, b.ownScope = b.containsBind) : OnlyWrites (n.traced s) where
  grows := stepwise_grows.follows_node [] n fun _ _ => trivial
  topped := by
    have hnodewise := (stepwise_topped_still.compositional (s := s)).nodewise
    have hbody : ∀ b ∈ n.bodies, Follows (fun _ c t _ d => Topped True c t d) [] (b.traced s) :=
      fun b hb => (onlyWrites_body (hbodies b hb)).topped
    cases n with
    | text content => cases hn
    | placeholders t => cases hn
    | bind b => cases hn
    | sequence children => cases hn
    | conditional first others otherwise =>
      refine hnodewise.conditionalOf trivial (fun b hb => ⟨nofun, hbody b.body ?_⟩)
        fun b hb => hbody b ?_
      · rcases List.mem_cons.mp hb with rfl | hb
        · exact List.mem_cons_self ..
        · exact List.mem_cons_of_mem _ (List.mem_append_left _ (List.mem_map.mpr ⟨b, hb, rfl⟩))
      · exact List.mem_cons_of_mem _ (List.mem_append_right _ (Option.mem_toList.mpr hb))
    | choose cases otherwise span =>
      refine hnodewise.chooseOf trivial (fun k hk => ⟨nofun, hbody k.body ?_⟩)
        fun b hb => hbody b ?_
      · exact List.mem_append_left _ (List.mem_map.mpr ⟨k, hk, rfl⟩)
      · exact List.mem_append_right _ (Option.mem_toList.mpr hb)
    | foreach head body =>
      exact hnodewise.foreachOf trivial nofun fun found =>
        (onlyWrites_iterations (loopBody_node s body) found false 0).topped
  marks := leavesMarks_node s n

theorem outputOnly_written {stack : ScopeStack} (hc : c.Stacked stack) (text : String)
    (opening : Option String) :
    (written (c.ask text) opening).Stacked stack ∧ OutputOnly c (written (c.ask text) opening) := by
  have hstacked : ∀ d : Context, d.scopes = c.scopes → d.current = c.current → d.Stacked stack := by
    intro d hscopes hcurrent
    refine ⟨?_, ?_⟩
    · rw [hscopes]
      exact hc.1
    · rw [hcurrent]
      exact hc.2
  cases opening with
  | none =>
    exact ⟨hc, outputOnly_of_stacked (.of_eq rfl rfl rfl rfl) hc hc rfl rfl⟩
  | some opening =>
    have hsilence := Context.silence_append (c.ask text) opening
    have hd := hstacked ((c.ask text).append opening) (congrArg Context.scopes hsilence :)
      (congrArg Context.current hsilence :)
    have hasked : Extends c (c.ask text) := .of_eq rfl rfl rfl rfl
    exact ⟨hd, outputOnly_of_stacked (hasked.trans (.append _ opening)) hc hd
      (matched_append _ opening) (broke_append _ opening)⟩

/-- The course of a loop of a template is that of the loop. -/
theorem foreach_of_course {head : LoopHead} {body : Node} {r : Except RenderError Unit}
    (h : Traced.Course (Traced.loop s head (Traced.ignoring (body.traced s))) c t r d) :
    outcome ((Node.foreach head body).apply s) c = (r.map fun _ => true, d)
      ∧ ((Node.foreach head body).traced s).trace c = .node (.foreach head body) c :: t := by
  have hnode : Traced.Course ((Node.foreach head body).traced s) c
      (.node (.foreach head body) c :: t) (r.map fun _ => true) d := h.map.noting
  rw [← Node.run_traced]
  exact ⟨hnode.outcome_eq, hnode.trace_eq⟩

/-- The iterations of a loop all begin as the loop did, but for the output of
those before. -/
theorem outputOnly_of_mem_starts {head : LoopHead} {body : Node} {stack : ScopeStack}
    (hc : c.Stacked stack)
    (he : e ∈ starts c.frames.length (((Node.foreach head body).traced s).trace c)) :
    OutputOnly c e := by
  rcases course_loop s head (Traced.ignoring (body.traced s)) c with
    ⟨error, hfails⟩ | ⟨found, -, ⟨-, hnothing⟩ | ⟨-, hruns⟩⟩
  · rw [(foreach_of_course hfails).2] at he
    cases he
  · rw [(foreach_of_course hnothing).2] at he
    cases he
  · obtain ⟨hopened, houtput⟩ := outputOnly_written hc head.collection head.opening
    rw [(foreach_of_course (hruns _ _ _ (Traced.Course.intro _ _))).2] at he
    have he' : e ∈ starts c.frames.length (Traced.iterations head
        (Traced.ignoring (body.traced s)) false 0 (found.getD []) |>.trace
          (written (c.ask head.collection) head.opening)) := he
    rw [← houtput.length_frames] at he'
    exact houtput.trans (outputOnly_of_mem_iterations (loopBody_node s body) hopened he')

end Render

end DynamicSql
