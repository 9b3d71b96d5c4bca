/-
The variables of the loops around, under both of their names.

Each iteration binds its variables twice, under the name of the template and
under the name of that iteration alone. Inside the iteration the two are
bound to the same value, whatever happens there (`Live.bound`). Three things
could spoil this: an inner loop that has a variable of the same name, a
binding that overwrites one of the names, and a scope that is not left as it
was entered.

# Inner loops

A name always stands for the variable of the innermost loop that has it. An
inner iteration hides the plain name of an outer one only by binding that
name itself, and then the inner iteration is the one that is asked about. It
never hides the other name, since no two iterations have the same number.

# Bindings

A binding inside a loop may overwrite a loop variable. So what follows is
about templates in which no binding does (`Harmless`): within loops, the names
of the loop variables and those of single iterations are reserved.

# Scopes

The scopes of a render are a stack (`DynamicSql.Proofs.Scope.Stack`). What is
entered is left again, so an action changes the innermost scope at most, and
there no reserved name (`Effect`).
-/
import DynamicSql.Expr.Eval
import DynamicSql.Proofs.Expr.Renaming
import DynamicSql.Proofs.Render.Course
import DynamicSql.Proofs.Scope.Stack

namespace DynamicSql

open LoopVariable (isPlain uniqueName)

-- =============================================================== scopes

namespace Context

/-- The scopes in sight are those of a stack. -/
def Stacked (c : Context) (stack : ScopeStack) : Prop :=
  c.scopes.Stacked stack ∧ stack.top? = some c.current

variable {c : Context} {id outer : ScopeId} {vars vars' : Bindings Value}
  {stack rest : ScopeStack}

theorem stacked_start (arguments : Arguments) :
    (start arguments).Stacked [(ScopeTree.root, arguments)] :=
  ⟨ScopeTree.stacked_withArguments arguments, rfl⟩

theorem Stacked.current (h : c.Stacked ((id, vars) :: rest)) : c.current = id :=
  (Option.some.inj h.2).symm

theorem Stacked.vars_eq (h : c.Stacked stack) (name : String) :
    c.vars name = stack.find? name := by
  cases stack with
  | nil => cases h.2
  | cons scope rest =>
    obtain ⟨id, vars⟩ := scope
    rw [Context.vars, h.current]
    exact h.1.view_eq name

theorem Stacked.put (h : c.Stacked ((id, vars) :: rest)) (name : String) (value : Value) :
    (c.put name value).Stacked ((id, vars.insert name value) :: rest) := by
  refine ⟨?_, h.2⟩
  show (c.scopes.put c.current name value).2.Stacked _
  rw [h.current]
  exact h.1.put name value

theorem Stacked.pushScope (h : c.Stacked stack) :
    ∃ id, c.pushScope.Stacked ((id, []) :: stack) := by
  cases stack with
  | nil => cases h.2
  | cons scope rest =>
    obtain ⟨id, vars⟩ := scope
    refine ⟨(c.scopes.acquire c.current).1, ?_, rfl⟩
    show (c.scopes.acquire c.current).2.Stacked _
    rw [h.current]
    exact h.1.acquire

theorem Stacked.popScope (h : c.Stacked ((id, vars) :: (outer, vars') :: rest)) :
    c.popScope.Stacked ((outer, vars') :: rest) := by
  obtain ⟨hid, hstack⟩ := h.1.release
  rw [← h.current] at hid hstack
  refine ⟨hstack, ?_⟩
  show some outer = some ((c.scopes.release c.current).1.getD c.current)
  rw [hid]
  rfl

end Context

-- ======================================================= loop variables

/-- What an iteration binds in its own scope: each of the names, and each
under the name of the iteration too. -/
structure Bindings.OfLoop (vars : Bindings Value) (names : List String) (n : Nat) : Prop where
  found : ∀ name ∈ names, (vars.find? name).isSome = true
  same : ∀ name, isPlain name = true → vars.find? name = vars.find? (uniqueName name n)
  only : ∀ name, isPlain name = true → name ∉ names → vars.find? name = none
  others : ∀ name k, k ≠ n → vars.find? (uniqueName name k) = none

namespace Bindings.OfLoop

variable {vars : Bindings Value} {names : List String} {n : Nat}

theorem empty (n : Nat) : OfLoop [] [] n where
  found _ h := nomatch h
  same _ _ := rfl
  only _ _ _ := rfl
  others _ _ _ := rfl

theorem insert (h : vars.OfLoop names n) {name : String} (hname : isPlain name = true)
    (value : Value) :
    ((vars.insert (uniqueName name n) value).insert name value).OfLoop (name :: names) n := by
  have hfind : ∀ other, ((vars.insert (uniqueName name n) value).insert name value).find? other
      = if name = other ∨ uniqueName name n = other then some value else vars.find? other := by
    intro other
    rw [find?_insert, find?_insert]
    by_cases hother : name = other <;> simp [hother]
  refine ⟨fun other ho => ?_, fun other ho => ?_, fun other ho hmem => ?_, fun other k hk => ?_⟩
  · rw [hfind]
    split
    · rfl
    · next hnot =>
      rcases List.mem_cons.mp ho with rfl | ho
      · exact absurd (Or.inl rfl) hnot
      · exact h.found other ho
  · have hplain : uniqueName name n ≠ other := fun heq =>
      LoopVariable.ne_uniqueName_of_isPlain ho name n heq.symm
    have hunique : name ≠ uniqueName other n :=
      LoopVariable.ne_uniqueName_of_isPlain hname other n
    rw [hfind, hfind]
    by_cases heq : name = other
    · rw [if_pos (Or.inl heq), if_pos (Or.inr (congrArg (uniqueName · n) heq))]
    · rw [if_neg (not_or.mpr ⟨heq, hplain⟩), if_neg (not_or.mpr ⟨hunique, fun hboth =>
        heq (LoopVariable.uniqueName_injective hboth).1⟩)]
      exact h.same other ho
  · have hplain : uniqueName name n ≠ other := fun heq =>
      LoopVariable.ne_uniqueName_of_isPlain ho name n heq.symm
    obtain ⟨hne, hrest⟩ := not_or.mp fun hor => hmem (List.mem_cons.mpr hor)
    rw [hfind, if_neg (not_or.mpr ⟨Ne.symm hne, hplain⟩)]
    exact h.only other ho hrest
  · have hunique : name ≠ uniqueName other k :=
      LoopVariable.ne_uniqueName_of_isPlain hname other k
    rw [hfind, if_neg (not_or.mpr ⟨hunique, fun hboth =>
      hk (LoopVariable.uniqueName_injective hboth).2.symm⟩)]
    exact h.others other k hk

end Bindings.OfLoop

namespace Render

open Template (Node LoopHead Bind Place)

variable {around : List LoopHead} {c d e : Context}

/-- An iteration begins with its variables alone in its scope. -/
theorem stacked_enterElement {stack : ScopeStack} (h : c.Stacked stack) {head : LoopHead}
    (hhead : ∀ name ∈ head.names, isPlain name = true) (separator : Option String)
    (key item : Value) :
    ∃ id vars, (enterElement c head separator key item).Stacked ((id, vars) :: stack)
      ∧ vars.OfLoop head.names c.iterations := by
  obtain ⟨id, hpush⟩ := h.pushScope
  have henter : (c.enterIteration head.item head.index separator).Stacked
      ((id, []) :: stack) := hpush
  have hput : ∀ {ctx : Context} {vars : Bindings Value} {names : List String}
      (name : Option String) (value : Value), (∀ n ∈ name.toList, isPlain n = true) →
        ctx.Stacked ((id, vars) :: stack) → vars.OfLoop names c.iterations →
          ∃ vars', (ctx.putLoopVariable c.iterations name value).Stacked ((id, vars') :: stack)
            ∧ vars'.OfLoop (name.toList ++ names) c.iterations := by
    intro ctx vars names name value hname hstack hloop
    cases name with
    | none => exact ⟨vars, hstack, hloop⟩
    | some n =>
      exact ⟨_, (hstack.put _ value).put n value,
        hloop.insert (hname n (List.mem_singleton.mpr rfl)) value⟩
  obtain ⟨vars, hstack, hloop⟩ := hput head.index key
    (fun n hn => hhead n (List.mem_append_right _ hn)) henter (.empty c.iterations)
  rw [List.append_nil] at hloop
  obtain ⟨vars', hstack', hloop'⟩ := hput head.item item
    (fun n hn => hhead n (List.mem_append_left _ hn)) hstack hloop
  exact ⟨id, vars', hstack', hloop'⟩

-- ============================================================== effects

/-- Within loops, the names of their variables and all names that single
iterations could have. -/
def Reserved (around : List LoopHead) (name : String) : Prop :=
  around ≠ [] ∧ (name ∈ around.flatMap LoopHead.names
    ∨ LoopVariable.marker.toList.isPrefixOf name.toList = true)

/-- What an action within loops may do: change the innermost scope, but no
reserved name. -/
structure Effect (around : List LoopHead) (c d : Context) : Prop extends SameLoops c d where
  scopes : ∀ {id vars rest}, c.Stacked ((id, vars) :: rest) →
    ∃ vars', d.Stacked ((id, vars') :: rest)
      ∧ ∀ name, Reserved around name → vars'.find? name = vars.find? name

namespace Effect

/-- Nothing is done to variables and loops. -/
theorem of_eq (hframes : d.frames.map LoopFrame.silence = c.frames.map LoopFrame.silence)
    (hiterations : d.iterations = c.iterations) (hscopes : d.scopes = c.scopes)
    (hcurrent : d.current = c.current) : Effect around c d where
  toSameLoops := .of_eq hframes hiterations
  scopes {_ vars _} hc := by
    refine ⟨vars, ⟨?_, ?_⟩, fun _ _ => rfl⟩
    · rw [hscopes]
      exact hc.1
    · rw [hcurrent]
      exact hc.2

theorem refl (c : Context) : Effect around c c := of_eq rfl rfl rfl rfl

theorem trans (h : Effect around c d) (h' : Effect around d e) : Effect around c e where
  toSameLoops := h.toSameLoops.trans h'.toSameLoops
  scopes hc := by
    obtain ⟨vars', hd, hsame⟩ := h.scopes hc
    obtain ⟨vars'', he, hsame'⟩ := h'.scopes hd
    exact ⟨vars'', he, fun name hr => (hsame' name hr).trans (hsame name hr)⟩

theorem append (c : Context) (text : String) : Effect around c (c.append text) := by
  have hsilence := Context.silence_append c text
  exact of_eq (congrArg Context.frames hsilence :) (congrArg Context.iterations hsilence :)
    (congrArg Context.scopes hsilence :) (congrArg Context.current hsilence :)

theorem put {name : String} (hname : ¬Reserved around name) (value : Value) :
    Effect around c (c.put name value) where
  toSameLoops := .of_eq rfl rfl
  scopes hc := by
    refine ⟨_, hc.put name value, fun other hr => ?_⟩
    rw [Bindings.find?_insert, if_neg]
    rintro rfl
    exact hname hr

/-- A reserved name is bound to what it was bound to before. -/
theorem vars_eq (h : Effect around c d) {stack : ScopeStack} (hc : c.Stacked stack)
    {name : String} (hr : Reserved around name) : d.vars name = c.vars name := by
  cases stack with
  | nil => cases hc.2
  | cons scope rest =>
    obtain ⟨id, vars⟩ := scope
    obtain ⟨vars', hd, hsame⟩ := h.scopes hc
    rw [hd.vars_eq, hc.vars_eq, ScopeStack.find?_cons, ScopeStack.find?_cons, hsame name hr]

end Effect

-- ================================================================ loops

/-- The loops around, and what is known of their iterations in a context. -/
structure Live (around : List LoopHead) (c : Context) : Prop where
  stacked : ∃ stack, c.Stacked stack
  names : c.frames.map LoopFrame.names = around.map LoopHead.names
  proper : ∀ f ∈ c.frames, ∀ name ∈ f.names,
    Expr.isVariable name = true ∧ isPlain name = true
  numbers : ∀ f ∈ c.frames, f.unique < c.iterations
  /-- Both names of a variable are bound to the same value. -/
  bound : ∀ {name : String} {f : LoopFrame}, LoopFrame.innermost? c.frames name = some f →
    c.vars name = c.vars (uniqueName name f.unique)

/-- Which of them decides about a name does not depend on what they owe. -/
theorem innermost?_of_silence_eq {frames frames' : List LoopFrame}
    (h : frames.map LoopFrame.silence = frames'.map LoopFrame.silence) {name : String}
    {f : LoopFrame} (hf : LoopFrame.innermost? frames name = some f) :
    ∃ g, LoopFrame.innermost? frames' name = some g ∧ g.unique = f.unique := by
  have hsilence : ∀ fs : List LoopFrame,
      LoopFrame.innermost? (fs.map LoopFrame.silence) name
        = (LoopFrame.innermost? fs name).map LoopFrame.silence := fun fs =>
    List.find?_map
  have hsome := hsilence frames
  rw [h, hsilence, hf] at hsome
  obtain ⟨g, hg, heq⟩ := Option.map_eq_some_iff.mp hsome
  exact ⟨g, hg, (congrArg LoopFrame.unique heq :)⟩

namespace Live

/-- No loops are around at the beginning. -/
theorem start (arguments : Arguments) : Live [] (Context.start arguments) where
  stacked := ⟨_, Context.stacked_start arguments⟩
  names := rfl
  proper _ h := nomatch h
  numbers _ h := nomatch h
  bound h := nomatch h

/-- Both names of a loop variable are reserved. -/
theorem reserved (h : Live around c) {f : LoopFrame} (hf : f ∈ c.frames) {name : String}
    (hname : name ∈ f.names) (n : Nat) :
    Reserved around name ∧ Reserved around (uniqueName name n) := by
  have hmem : f.names ∈ around.map LoopHead.names := by
    rw [← h.names]
    exact List.mem_map.mpr ⟨f, hf, rfl⟩
  obtain ⟨head, hhead, hnames⟩ := List.mem_map.mp hmem
  have hne : around ≠ [] := List.ne_nil_of_mem hhead
  refine ⟨⟨hne, Or.inl (List.mem_flatMap.mpr ⟨head, hhead, hnames ▸ hname⟩)⟩, hne, Or.inr ?_⟩
  rw [LoopVariable.toList_uniqueName]
  exact List.isPrefixOf_iff_prefix.mpr (List.prefix_append _ _)

/-- The effects of actions keep what is known of iterations. -/
theorem effect (h : Live around c) (heffect : Effect around c d) : Live around d where
  stacked := by
    obtain ⟨stack, hc⟩ := h.stacked
    cases stack with
    | nil => cases hc.2
    | cons scope rest =>
      obtain ⟨vars', hd, -⟩ := heffect.scopes hc
      exact ⟨_, hd⟩
  names := by
    have hnames := congrArg (List.map LoopFrame.names) heffect.frames
    rw [List.map_map, List.map_map] at hnames
    exact hnames.trans h.names
  proper f hf := by
    obtain ⟨g, hg, hnames, -⟩ := LoopFrame.mem_of_silence_eq heffect.frames hf
    rw [← hnames]
    exact h.proper g hg
  numbers f hf := by
    obtain ⟨g, hg, -, hunique⟩ := LoopFrame.mem_of_silence_eq heffect.frames hf
    rw [← hunique]
    exact Nat.lt_of_lt_of_le (h.numbers g hg) heffect.iterations
  bound {name f} hf := by
    obtain ⟨g, hg, hunique⟩ := innermost?_of_silence_eq heffect.frames hf
    obtain ⟨hmem, hname⟩ := LoopFrame.mem_of_innermost? hg
    obtain ⟨stack, hc⟩ := h.stacked
    obtain ⟨hplain, hown⟩ := h.reserved hmem hname g.unique
    rw [← hunique, heffect.vars_eq hc hplain, heffect.vars_eq hc hown]
    exact h.bound hg

/-- An iteration that is entered is one more of which all this is known. -/
theorem enter (h : Live around c) {head : LoopHead}
    (hhead : ∀ name ∈ head.names, Expr.isVariable name = true ∧ isPlain name = true)
    (separator : Option String) (key item : Value) :
    Live (head :: around) (enterElement c head separator key item) := by
  obtain ⟨stack, hc⟩ := h.stacked
  obtain ⟨id, vars, hstack, hloop⟩ := stacked_enterElement hc (fun name hn => (hhead name hn).2)
    separator key item
  refine ⟨⟨_, hstack⟩, ?_, ?_, ?_, ?_⟩
  · rw [frames_enterElement, List.map_cons, List.map_cons, h.names]
    rfl
  · rw [frames_enterElement]
    intro f hf
    rcases List.mem_cons.mp hf with rfl | hf
    · exact hhead
    · exact h.proper f hf
  · rw [frames_enterElement, iterations_enterElement]
    intro f hf
    rcases List.mem_cons.mp hf with rfl | hf
    · exact Nat.lt_succ_self c.iterations
    · exact Nat.lt_succ_of_lt (h.numbers f hf)
  · intro name f hf
    rw [frames_enterElement] at hf
    rw [hstack.vars_eq, hstack.vars_eq, ScopeStack.find?_cons, ScopeStack.find?_cons]
    cases hbinds : LoopFrame.binds ⟨separator, false, head.item, head.index, c.iterations⟩ name with
    | true =>
      rw [LoopFrame.innermost?_cons_of_binds hbinds] at hf
      obtain rfl := Option.some.inj hf
      have hname : name ∈ head.names := LoopFrame.binds_iff.mp hbinds
      rw [← hloop.same name (hhead name hname).2]
      obtain ⟨v, hv⟩ := Option.isSome_iff_exists.mp (hloop.found name hname)
      rw [hv]
      rfl
    | false =>
      rw [LoopFrame.innermost?_cons_of_not_binds hbinds] at hf
      obtain ⟨hmem, hin⟩ := LoopFrame.mem_of_innermost? hf
      have hname : name ∉ head.names := fun hn =>
        Bool.eq_false_iff.mp hbinds (LoopFrame.binds_iff.mpr hn)
      rw [hloop.only name (h.proper f hmem name hin).2 hname,
        hloop.others name f.unique (Nat.ne_of_lt (h.numbers f hmem))]
      have hbound := h.bound hf
      rw [hc.vars_eq, hc.vars_eq] at hbound
      exact hbound

end Live

namespace Effect

/-- What is done in a scope that is left again is gone. -/
theorem scope (h : Effect around c.pushScope d) : Effect around c d.popScope where
  toSameLoops := ⟨h.frames, h.iterations⟩
  scopes {_ vars _} hstack := by
    obtain ⟨inner, hpush⟩ := hstack.pushScope
    obtain ⟨vars', hd, -⟩ := h.scopes hpush
    exact ⟨vars, hd.popScope, fun _ _ => rfl⟩

/-- So is what is done in an iteration. -/
theorem iteration {head : LoopHead} {separator : Option String} {key item : Value}
    (h : Effect (head :: around) (enterElement c head separator key item) d)
    (hhead : ∀ name ∈ head.names, isPlain name = true) : Effect around c d.leaveIteration where
  toSameLoops := h.toSameLoops.iteration
  scopes {_ vars _} hstack := by
    obtain ⟨inner, own, henter, -⟩ := stacked_enterElement hstack hhead separator key item
    obtain ⟨own', hd, -⟩ := h.scopes henter
    exact ⟨vars, hd.popScope, fun _ _ => rfl⟩

end Effect

/-- A scope that is entered hides nothing. -/
theorem Live.pushScope (h : Live around c) : Live around c.pushScope where
  stacked := by
    obtain ⟨stack, hc⟩ := h.stacked
    obtain ⟨id, hpush⟩ := hc.pushScope
    exact ⟨_, hpush⟩
  names := h.names
  proper := h.proper
  numbers := h.numbers
  bound hf := by
    obtain ⟨stack, hc⟩ := h.stacked
    obtain ⟨id, hpush⟩ := hc.pushScope
    have hbound := h.bound hf
    rw [hc.vars_eq, hc.vars_eq] at hbound
    rw [hpush.vars_eq, hpush.vars_eq, ScopeStack.find?_cons_nil, ScopeStack.find?_cons_nil]
    exact hbound

-- ============================================================== courses

/-- True of a place that leaves the names of loops alone: the variables of a
loop are called as variables may be, and a binding uses no reserved name. -/
def Harmless : Place → Prop
  | ⟨_, .loop head⟩ => ∀ name ∈ head.names, Expr.isVariable name = true ∧ isPlain name = true
  | ⟨around, .bind b⟩ => ¬Reserved around b.name
  | _ => True

instance (p : Place) : Decidable (Harmless p) :=
  match p with
  | ⟨_, .loop head⟩ => inferInstanceAs
      (Decidable (∀ name ∈ head.names, Expr.isVariable name = true ∧ isPlain name = true))
  | ⟨around, .bind b⟩ => inferInstanceAs
      (Decidable (¬(around ≠ [] ∧ (b.name ∈ around.flatMap LoopHead.names
        ∨ LoopVariable.marker.toList.isPrefixOf b.name.toList = true))))
  | ⟨_, .interpolation _⟩ => isTrue trivial
  | ⟨_, .parameter _⟩ => isTrue trivial
  | ⟨_, .test _⟩ => isTrue trivial

/-- The loops around a moment are live; a parameter is one of those that are
allowed there. -/
def Moment.Lively (Allowed : Place → Prop) (m : Moment) : Prop :=
  ∃ around, Live around m.ctx ∧ match m with
    | .parameter mapping _ => Allowed ⟨around, .parameter mapping⟩
    | _ => True

/-- Begun where loops are live, actions leave them so, and they are live at
every moment in between. -/
theorem stepwise_live {Allowed : Place → Prop} (hsafe : ∀ p, Allowed p → Harmless p) :
    Stepwise Allowed fun around c t _ d =>
      Live around c → Effect around c d ∧ ∀ m ∈ t, m.Lively Allowed where
  stay _ _ := ⟨.refl _, fun _ hm => nomatch hm⟩
  trans hfirst hsecond hc := by
    obtain ⟨heffect, hlively⟩ := hfirst hc
    obtain ⟨heffect', hlively'⟩ := hsecond (hc.effect heffect)
    exact ⟨heffect.trans heffect', fun m hm =>
      (List.mem_append.mp hm).elim (hlively m) (hlively' m)⟩
  ask _ _ _ := ⟨.of_eq rfl rfl rfl rfl, fun _ hm => nomatch hm⟩
  mark _ _ := ⟨.of_eq rfl rfl rfl rfl, fun _ hm => nomatch hm⟩
  append text _ := ⟨.append _ text, fun _ hm => nomatch hm⟩
  put value ha _ := ⟨.put (hsafe _ ha) value, fun _ hm => nomatch hm⟩
  addValue _ _ := ⟨.of_eq rfl rfl rfl rfl, fun _ hm => nomatch hm⟩
  collect ha _ hstep hc := by
    refine ⟨(hstep hc).1.trans (.of_eq rfl rfl rfl rfl), fun m hm => ?_⟩
    rw [List.mem_singleton.mp hm]
    exact ⟨_, hc, ha⟩
  refuse ha hstep hc := by
    refine ⟨(hstep hc).1, fun m hm => ?_⟩
    rw [List.mem_singleton.mp hm]
    exact ⟨_, hc, ha⟩
  node n hcourse hc := by
    obtain ⟨heffect, hlively⟩ := hcourse hc
    refine ⟨heffect, fun m hm => ?_⟩
    rcases List.mem_cons.mp hm with rfl | hm
    · exact ⟨_, hc, trivial⟩
    · exact hlively m hm
  choice hcourse hc := by
    obtain ⟨heffect, hlively⟩ := hcourse hc
    exact ⟨heffect.trans (.of_eq rfl rfl rfl rfl), hlively⟩
  scope hcourse hc := by
    obtain ⟨heffect, hlively⟩ := hcourse hc.pushScope
    exact ⟨heffect.scope, hlively⟩
  iteration {_ _ _ _ _ head separator key item} ha hcourse hc := by
    have hhead : ∀ name ∈ head.names, Expr.isVariable name = true ∧ isPlain name = true :=
      hsafe _ ha
    obtain ⟨heffect, hlively⟩ := hcourse (hc.enter hhead separator key item)
    refine ⟨heffect.iteration fun name hn => (hhead name hn).2, fun m hm => ?_⟩
    rcases List.mem_cons.mp hm with rfl | hm
    · exact ⟨_, hc, trivial⟩
    · exact hlively m hm

/-- At every moment of a render, the loops around it are live. -/
theorem lively_of_mem_trace {s : Setting} {n : Node} (hn : ∀ p ∈ n.places [], Harmless p)
    (hc : Live [] c) : ∀ m ∈ (n.traced s).trace c, m.Lively (· ∈ n.places []) :=
  (((stepwise_live hn).course_node [] n fun _ hp => hp) c hc).2

end Render

end DynamicSql
