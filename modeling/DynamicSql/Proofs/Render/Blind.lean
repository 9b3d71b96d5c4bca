/-
What a render sees of its arguments.

Two renders of one template begin with different arguments that agree on some
names. If the texts of the template mention no others, the renders are the
same at every step: they see the arguments only through the variables that
these texts name.

# The relation

Two contexts are twins if they are the same but for their scopes, and if
their scopes are the same but for the outermost one, where the names that are
known are bound to the same values (`Twins`). Whatever a render binds it binds
on both sides, be it in the outermost scope.

# Names that are made up

A property that is renamed mentions the name of an iteration, which stands in
no text. It has the same value on both sides all the same, since the iteration
has bound it in a scope of its own. The arguments may bind it too, but they
are further outside. So the relation remembers which loops are around and what
their scopes bind at least (`Numbered`). Nothing that a render does takes a
binding away from a scope that it is in (`Bindings.Grown`).

What is around an action is the same after it as before, since what is
entered is left again. So it changes only for what is run inside of a scope or
of an iteration.
-/
import DynamicSql.Evaluator
import DynamicSql.Proofs.Expr.Mentioned
import DynamicSql.Proofs.Render.InStep
import DynamicSql.Proofs.Render.LoopScope

namespace DynamicSql

open LoopVariable (uniqueName)

/-- An evaluator that asks for no variables but those that the text
mentions. -/
def Evaluator.ReadsMentioned (E : Evaluator) : Prop :=
  ∀ ⦃text : String⦄ ⦃vars vars' : Variables⦄,
    (∀ name ∈ Token.mentioned text, vars name = vars' name) → E text vars = E text vars'

theorem Evaluator.readsMentioned_standard : Evaluator.standard.ReadsMentioned :=
  fun _ _ _ h => Expr.evalText_congr h

-- ============================================================ bindings

namespace Bindings

/-- All names bound there are bound here. -/
def Grown (vars vars' : Bindings Value) : Prop :=
  ∀ name, vars.contains name = true → vars'.contains name = true

theorem contains_insert (vars : Bindings Value) (name : String) (value : Value)
    (other : String) :
    (vars.insert name value).contains other = (name == other || vars.contains other) := by
  rw [contains, find?_insert, contains]
  by_cases h : name = other
  · simp [h]
  · simp [h]

theorem Grown.insert {vars vars' : Bindings Value} (h : vars.Grown vars') (name : String)
    (value : Value) : vars.Grown (vars'.insert name value) := by
  intro other hother
  rw [contains_insert, h other hother, Bool.or_true]

/-- What is bound somewhere still is when the scopes have grown. -/
theorem exists_contains_of_grown {layers inner : List (Bindings Value)} {name : String}
    (hgrown : List.Forall₂ Grown layers inner)
    (hbound : ∃ vars ∈ layers, vars.contains name = true) :
    ∃ vars ∈ inner, vars.contains name = true := by
  obtain ⟨vars, hvars, hname⟩ := hbound
  induction hgrown with
  | nil => cases hvars
  | cons hfirst _ ih =>
    rcases List.mem_cons.mp hvars with rfl | hrest
    · exact ⟨_, List.mem_cons_self .., hfirst name hname⟩
    · obtain ⟨found, hfound, hname'⟩ := ih hrest
      exact ⟨found, List.mem_cons_of_mem _ hfound, hname'⟩

/-- The variables of an iteration's scope with a loop variable bound in it,
under both of its names. -/
def bindLoop (vars : Bindings Value) (n : Nat) (name : Option String) (value : Value) :
    Bindings Value :=
  match name with
  | none => vars
  | some name => (vars.insert (uniqueName name n) value).insert name value

theorem grown_bindLoop (vars : Bindings Value) (n : Nat) (name : Option String)
    (value : Value) : vars.Grown (vars.bindLoop n name value) := by
  cases name with
  | none => exact fun _ h => h
  | some name => exact Grown.insert (Grown.insert (fun _ h => h) _ value) name value

theorem contains_bindLoop (vars : Bindings Value) (n : Nat) (name : String) (value : Value) :
    (vars.bindLoop n (some name) value).contains (uniqueName name n) = true := by
  rw [bindLoop, contains_insert, contains_insert, beq_self_eq_true, Bool.true_or, Bool.or_true]

end Bindings

namespace Context

variable {c d : Context} {vars vars' : Bindings Value} {rest layers : List (Bindings Value)}

-- ============================================================== layers

/-- The scopes in sight have these variables, those of the innermost first. -/
def Layered (c : Context) (layers : List (Bindings Value)) : Prop :=
  ∃ stack, c.Stacked stack ∧ stack.map Prod.snd = layers

namespace Layered

theorem start (arguments : Arguments) : (Context.start arguments).Layered [arguments] :=
  ⟨_, stacked_start arguments, rfl⟩

theorem of_eq (h : c.Layered layers) (hscopes : d.scopes = c.scopes)
    (hcurrent : d.current = c.current) : d.Layered layers := by
  obtain ⟨stack, hstack, hlayers⟩ := h
  refine ⟨stack, ?_, hlayers⟩
  rw [Stacked, hscopes, hcurrent]
  exact hstack

theorem vars_eq (h : c.Layered layers) (name : String) :
    c.vars name = layers.findSome? fun vars => Bindings.find? vars name := by
  obtain ⟨stack, hstack, rfl⟩ := h
  rw [hstack.vars_eq, ScopeStack.find?, List.findSome?_map]
  rfl

theorem put (h : c.Layered (vars :: rest)) (name : String) (value : Value) :
    (c.put name value).Layered (vars.insert name value :: rest) := by
  obtain ⟨stack, hstack, hlayers⟩ := h
  obtain ⟨⟨id, vars⟩, scopes, rfl, rfl, rfl⟩ := List.map_eq_cons_iff.mp hlayers
  exact ⟨_, hstack.put name value, rfl⟩

theorem putLoopVariable (h : c.Layered (vars :: rest)) (n : Nat) (name : Option String)
    (value : Value) :
    (c.putLoopVariable n name value).Layered (vars.bindLoop n name value :: rest) := by
  cases name with
  | none => exact h
  | some name => exact (h.put _ value).put name value

theorem pushScope (h : c.Layered layers) : c.pushScope.Layered ([] :: layers) := by
  obtain ⟨stack, hstack, rfl⟩ := h
  obtain ⟨id, hpush⟩ := hstack.pushScope
  exact ⟨_, hpush, rfl⟩

theorem popScope (h : c.Layered (vars :: vars' :: rest)) : c.popScope.Layered (vars' :: rest) := by
  obtain ⟨stack, hstack, hlayers⟩ := h
  obtain ⟨⟨id, vars⟩, scopes, rfl, rfl, hscopes⟩ := List.map_eq_cons_iff.mp hlayers
  obtain ⟨⟨outer, vars'⟩, scopes', rfl, rfl, rfl⟩ := List.map_eq_cons_iff.mp hscopes
  exact ⟨_, hstack.popScope, rfl⟩

/-- A scope that is left shows what is around it, as long as it is not the
outermost one. -/
theorem popScope_append {root : Bindings Value} (h : c.Layered (vars :: (layers ++ [root]))) :
    c.popScope.Layered (layers ++ [root]) := by
  cases layers with
  | nil => exact h.popScope
  | cons _ _ => exact h.popScope

end Layered

-- =============================================================== twins

/-- The context without its scopes. -/
def bare (ctx : Context) : Context :=
  { ctx with scopes := ScopeTree.empty, current := ScopeTree.root }

/-- A change that leaves scopes and loops as they are, and does not look at
the scopes. -/
structure Aside (f : Context → Context) : Prop where
  bare : ∀ x, (f x).bare = f x.bare
  scopes : ∀ x, (f x).scopes = x.scopes
  current : ∀ x, (f x).current = x.current
  frames : ∀ x, (f x).frames.map LoopFrame.silence = x.frames.map LoopFrame.silence

theorem aside_ask (text : String) : Aside fun x => x.ask text :=
  ⟨fun _ => rfl, fun _ => rfl, fun _ => rfl, fun _ => rfl⟩

theorem aside_addValue (value : Value) : Aside fun x => x.addValue value :=
  ⟨fun _ => rfl, fun _ => rfl, fun _ => rfl, fun _ => rfl⟩

theorem aside_addMapping (m : Parameter.Mapping) : Aside fun x => x.addMapping m :=
  ⟨fun _ => rfl, fun _ => rfl, fun _ => rfl, fun _ => rfl⟩

theorem aside_mark (breaks : Bool) : Aside fun x => x.mark breaks :=
  ⟨fun _ => rfl, fun _ => rfl, fun _ => rfl, fun _ => rfl⟩

/-- Writing pays what loops owe, but that is all it does to them. -/
theorem aside_append (text : String) : Aside fun x => x.append text where
  bare x := by
    unfold append bare
    cases Text.allBlank text <;> cases text.isEmpty <;> rfl
  scopes x := (congrArg Context.scopes (silence_append x text) :)
  current x := (congrArg Context.current (silence_append x text) :)
  frames x := (congrArg Context.frames (silence_append x text) :)

/-- The names of the loops' variables are names, and the scopes bind them
under the names of the iterations. -/
def Numbered (loops : List LoopFrame) (layers : List (Bindings Value)) : Prop :=
  ∀ f ∈ loops, ∀ name ∈ f.names, Token.isName name = true
    ∧ ∃ vars ∈ layers, vars.contains (uniqueName name f.unique) = true

theorem Numbered.cons {loops : List LoopFrame} (h : Numbered loops layers)
    (vars : Bindings Value) : Numbered loops (vars :: layers) := by
  intro f hf name hname
  obtain ⟨hisName, found, hfound, hbound⟩ := h f hf name hname
  exact ⟨hisName, found, List.mem_cons_of_mem _ hfound, hbound⟩

/-- Contexts within loops that differ in what the outermost scope binds names
to that are not known. The scopes further inside bind at least what is bound
in layers. -/
structure Twins (known : List String) (loops : List LoopFrame) (layers : List (Bindings Value))
    (c d : Context) : Prop where
  bare : c.bare = d.bare
  loops : c.frames.map LoopFrame.silence = loops
  scopes : ∃ inner root root', c.Layered (inner ++ [root]) ∧ d.Layered (inner ++ [root'])
    ∧ List.Forall₂ Bindings.Grown layers inner
    ∧ ∀ name ∈ known, Bindings.find? root name = Bindings.find? root' name

namespace Twins

variable {known : List String} {loops : List LoopFrame}

theorem start {arguments arguments' : Arguments}
    (h : ∀ name ∈ known, Bindings.find? arguments name = Bindings.find? arguments' name) :
    Twins known [] [] (Context.start arguments) (Context.start arguments') where
  bare := rfl
  loops := rfl
  scopes := ⟨[], arguments, arguments', .start arguments, .start arguments', .nil, h⟩

theorem frames_eq (h : Twins known loops layers c d) : c.frames = d.frames :=
  (congrArg Context.frames h.bare : c.bare.frames = d.bare.frames)

theorem iterations_eq (h : Twins known loops layers c d) : c.iterations = d.iterations :=
  (congrArg Context.iterations h.bare : c.bare.iterations = d.bare.iterations)

theorem marks_eq (h : Twins known loops layers c d) :
    (c.matched, c.broke) = (d.matched, d.broke) := by
  show (c.bare.matched, c.bare.broke) = (d.bare.matched, d.bare.broke)
  rw [h.bare]

theorem hasApplied_eq (h : Twins known loops layers c d) : c.hasApplied = d.hasApplied := by
  rw [hasApplied, hasApplied, h.frames_eq]

/-- A name has the same value on both sides if it is known, or is bound
further inside than the arguments are. -/
theorem vars_eq (h : Twins known loops layers c d) {name : String}
    (hname : name ∈ known ∨ ∃ vars ∈ layers, vars.contains name = true) :
    c.vars name = d.vars name := by
  obtain ⟨inner, root, root', hc, hd, hgrown, hroots⟩ := h.scopes
  rw [hc.vars_eq, hd.vars_eq, List.findSome?_append, List.findSome?_append]
  rcases hname with hknown | hbound
  · simp only [List.findSome?_cons, List.findSome?_nil, hroots name hknown]
  · obtain ⟨vars', hvars', hbound'⟩ := Bindings.exists_contains_of_grown hgrown hbound
    have hsome : (inner.findSome? fun vars => Bindings.find? vars name).isSome = true :=
      List.findSome?_isSome_iff.mpr ⟨vars', hvars', hbound'⟩
    obtain ⟨found, hfound⟩ := Option.isSome_iff_exists.mp hsome
    rw [hfound]
    rfl

-- ============================================================= changes

/-- What is done apart from scopes and loops is done on both sides. -/
theorem update (h : Twins known loops layers c d) {f : Context → Context} (hf : Aside f) :
    Twins known loops layers (f c) (f d) where
  bare := by rw [hf.bare, hf.bare, h.bare]
  loops := (hf.frames c).trans h.loops
  scopes := by
    obtain ⟨inner, root, root', hc, hd, hrest⟩ := h.scopes
    exact ⟨inner, root, root', hc.of_eq (hf.scopes c) (hf.current c),
      hd.of_eq (hf.scopes d) (hf.current d), hrest⟩

/-- The marks of a choice are taken from twins too. -/
theorem restoreMarks {b b' : Context} (hbefore : Twins known loops layers b b')
    (h : Twins known loops layers c d) :
    Twins known loops layers (Render.restoreMarks b c) (Render.restoreMarks b' d) where
  bare := by
    show Render.restoreMarks b.bare c.bare = Render.restoreMarks b'.bare d.bare
    rw [hbefore.bare, h.bare]
  loops := h.loops
  scopes := h.scopes

/-- A binding goes into the innermost scope, on both sides. -/
theorem put (h : Twins known loops layers c d) (name : String) (value : Value) :
    Twins known loops layers (c.put name value) (d.put name value) where
  bare := h.bare
  loops := h.loops
  scopes := by
    obtain ⟨inner, root, root', hc, hd, hgrown, hroots⟩ := h.scopes
    cases inner with
    | nil =>
      -- Nothing was entered, so the name is bound among the arguments of both.
      refine ⟨[], root.insert name value, root'.insert name value, hc.put name value,
        hd.put name value, hgrown, fun other hother => ?_⟩
      rw [Bindings.find?_insert, Bindings.find?_insert, hroots other hother]
    | cons vars inner =>
      cases hgrown with
      | cons hfirst hrest =>
        exact ⟨vars.insert name value :: inner, root, root', hc.put name value,
          hd.put name value, .cons (hfirst.insert name value) hrest, hroots⟩

theorem pushScope (h : Twins known loops layers c d) :
    Twins known loops ([] :: layers) c.pushScope d.pushScope where
  bare := h.bare
  loops := h.loops
  scopes := by
    obtain ⟨inner, root, root', hc, hd, hgrown, hroots⟩ := h.scopes
    exact ⟨[] :: inner, root, root', hc.pushScope, hd.pushScope, .cons (fun _ hn => hn) hgrown,
      hroots⟩

theorem popScope (h : Twins known loops (vars :: layers) c d) :
    Twins known loops layers c.popScope d.popScope where
  bare := h.bare
  loops := h.loops
  scopes := by
    obtain ⟨inner, root, root', hc, hd, hgrown, hroots⟩ := h.scopes
    cases hgrown with
    | cons _ hrest =>
      exact ⟨_, root, root', hc.popScope_append, hd.popScope_append, hrest, hroots⟩

end Twins

end Context

namespace Render

open Context (Twins Numbered)
open Template (Part Piece LoopHead Node)

variable {α : Type} {known : List String} {loops : List LoopFrame}
  {layers : List (Bindings Value)} {c d : Context}

-- =============================================================== loops

/-- What is bound in the scope of an iteration when it begins. -/
def elementVars (n : Nat) (head : LoopHead) (key item : Value) : Bindings Value :=
  (Bindings.bindLoop [] n head.index key).bindLoop n head.item item

/-- The frame of an iteration, whatever it owes. -/
def elementFrame (n : Nat) (head : LoopHead) : LoopFrame :=
  ⟨none, false, head.item, head.index, n⟩

theorem bare_enterElement (c : Context) (head : LoopHead) (separator : Option String)
    (key item : Value) :
    (enterElement c head separator key item).bare
      = (enterElement c.bare head separator key item).bare := by
  unfold enterElement Context.putLoopVariable
  cases head.index <;> cases head.item <;> rfl

theorem layered_enterElement (h : c.Layered layers) (head : LoopHead)
    (separator : Option String) (key item : Value) :
    (enterElement c head separator key item).Layered
      (elementVars c.iterations head key item :: layers) := by
  have henter : (c.enterIteration head.item head.index separator).Layered ([] :: layers) :=
    h.pushScope
  exact (henter.putLoopVariable _ _ key).putLoopVariable _ _ item

theorem twins_enterElement (h : Twins known loops layers c d)
    (head : LoopHead) (separator : Option String) (key item : Value) :
    Twins known (elementFrame c.iterations head :: loops)
      (elementVars c.iterations head key item :: layers)
      (enterElement c head separator key item) (enterElement d head separator key item) where
  bare := by rw [bare_enterElement c, bare_enterElement d, h.bare]
  loops := by
    rw [frames_enterElement, List.map_cons, h.loops]
    rfl
  scopes := by
    obtain ⟨inner, root, root', hc, hd, hgrown, hroots⟩ := h.scopes
    have hd' := layered_enterElement hd head separator key item
    rw [← h.iterations_eq] at hd'
    exact ⟨_ :: inner, root, root', layered_enterElement hc head separator key item, hd',
      .cons (fun _ hn => hn) hgrown, hroots⟩

/-- All variables of an iteration have its number as long as it lasts. -/
theorem numbered_element (h : Numbered loops layers) {head : LoopHead}
    (hhead : ∀ name ∈ head.names, Token.isName name = true) (n : Nat) (key item : Value) :
    Numbered (elementFrame n head :: loops) (elementVars n head key item :: layers) := by
  intro f hf name hname
  rcases List.mem_cons.mp hf with rfl | hf
  · refine ⟨hhead name hname, _, List.mem_cons_self .., ?_⟩
    rcases List.mem_append.mp hname with hitem | hindex
    · obtain hitem : head.item = some name := Option.mem_toList.mp hitem
      rw [elementVars, hitem]
      exact Bindings.contains_bindLoop ..
    · obtain hindex : head.index = some name := Option.mem_toList.mp hindex
      rw [elementVars, hindex]
      exact Bindings.grown_bindLoop _ _ _ _ _ (Bindings.contains_bindLoop ..)
  · exact h.cons _ f hf name hname

/-- After an iteration only the scopes and the loops around it are left. -/
theorem twins_leaveIteration {f : LoopFrame} {vars : Bindings Value}
    (h : Twins known (f :: loops) (vars :: layers) c d) :
    Twins known loops layers c.leaveIteration d.leaveIteration := by
  have hframes : Twins known loops (vars :: layers) { c with frames := c.frames.tail }
      { d with frames := d.frames.tail } := by
    refine ⟨?_, ?_, h.scopes⟩
    · show { c.bare with frames := c.bare.frames.tail }
        = { d.bare with frames := d.bare.frames.tail }
      rw [h.bare]
    · rw [List.map_tail, h.loops]
      rfl
  exact hframes.popScope

-- ============================================================ actions

/-- Begun in twins, whatever is around them, the action gives the same result
on both sides and leaves twins. -/
def Blind (known : List String) (x : Render α) : Prop :=
  ∀ loops layers, Numbered loops layers → InStep (Twins known loops layers) x x

theorem blind_pure (a : α) : Blind known (pure a : Render α) :=
  fun _ _ _ => inStep_pure a

theorem blind_bind {β : Type} {x : Render α} {f : α → Render β} (hx : Blind known x)
    (hf : ∀ a, Blind known (f a)) : Blind known (x >>= f) :=
  fun loops layers h => inStep_bind (hx loops layers h) fun a => hf a loops layers h

/-- What is done apart from scopes and loops sees nothing. -/
theorem inStep_aside {f : Context → Context} (hf : Context.Aside f) :
    InStep (Twins known loops layers) (update f) (update f) :=
  inStep_update fun h => h.update hf

theorem inStep_ask_twins (text : String) {answer : Variables → Except EvalError α}
    (hanswer : ∀ {c d}, Twins known loops layers c d → answer c.vars = answer d.vars)
    (blame : EvalError → RenderError) :
    InStep (Twins known loops layers) (ask text answer blame) (ask text answer blame) :=
  inStep_ask (fun h => h.update (Context.aside_ask text)) hanswer

/-- A property under the names that loops give to it mentions nothing but what
is known, and what these loops have bound. -/
theorem mem_mentioned_uniquify (h : Numbered loops layers) {m : Parameter.Mapping}
    (hknown : Token.mentioned m.source.text ⊆ known) :
    ∀ name ∈ Token.mentioned (Context.uniquify loops m).source.text,
      name ∈ known ∨ ∃ vars ∈ layers, vars.contains name = true := by
  intro name hname
  obtain ⟨source, jdbcType, options⟩ := m
  cases source with
  | expression text => exact .inl (hknown hname)
  | property path =>
    have hnames : ∀ f ∈ loops, ∀ name ∈ f.names, Token.isName name = true :=
      fun f hf name hn => (h f hf name hn).1
    rcases LoopFrame.mem_mentioned_renamed hnames name hname with hbefore | ⟨f, hf, own, hown, rfl⟩
    · exact .inl (hknown hbefore)
    · exact .inr (h f hf own hown).2

section Evaluated

variable {s : Setting} (hE : s.evaluator.ReadsMentioned)
include hE

/-- Twins give the evaluator the same answer about a text that mentions what
is known. -/
theorem evaluator_eq {text : String} (hknown : Token.mentioned text ⊆ known)
    (h : Twins known loops layers c d) : s.evaluator text c.vars = s.evaluator text d.vars :=
  hE fun _ hname => h.vars_eq (.inl (hknown hname))

theorem blind_value {text : String} (hknown : Token.mentioned text ⊆ known) (tag : String) :
    Blind known (value s tag text) :=
  fun _ _ _ => inStep_ask_twins text (fun h => evaluator_eq hE hknown h) _

/-- The loops around are the same on both sides, so the mapping is too. -/
theorem blind_collect {m : Parameter.Mapping} (hknown : Token.mentioned m.source.text ⊆ known) :
    Blind known (collect s m) := by
  intro loops layers h
  have huniquify : ∀ {x y}, Twins known loops layers x y →
      Context.uniquify x.frames m = Context.uniquify loops m := fun hR => by
    rw [← Context.uniquify_silence, hR.loops]
  have hmapping : InStep (Twins known loops layers)
      (update fun ctx => ctx.addMapping (Context.uniquify loops m))
      (update fun ctx => ctx.addMapping (Context.uniquify loops m)) :=
    inStep_aside (Context.aside_addMapping _)
  refine inStep_get fun {c d} hR => ?_
  have hleft := huniquify hR
  have hright := huniquify hR
  rw [hR.frames_eq] at hright
  simp only [hleft, hright]
  cases s.collectsValues with
  | false => exact hmapping hR
  | true =>
    have hanswer : ∀ {x y}, Twins known loops layers x y →
        s.evaluator (Context.uniquify loops m).source.text x.vars
          = s.evaluator (Context.uniquify loops m).source.text y.vars := fun hR =>
      hE fun name hname => hR.vars_eq (mem_mentioned_uniquify h hknown name hname)
    exact inStep_bind (inStep_ask_twins _ hanswer _) (fun v =>
      inStep_bind (inStep_aside (Context.aside_addValue v)) fun _ => hmapping) hR

theorem blind_piece {p : Piece}
    (hknown : ∀ part ∈ p.part?, Token.mentioned part.text ⊆ known) : Blind known (piece s p) := by
  cases p with
  | literal text => exact blind_pure text
  | interpolation text =>
    refine blind_bind (blind_value hE (hknown (.interpolation text) rfl) "text") fun v => ?_
    cases s.filter with
    | none => exact blind_pure v.render
    | some filter =>
      cases hf : filter.accepts v.render with
      | true =>
        simp only [hf, if_true]
        exact blind_pure v.render
      | false =>
        simp only [hf, Bool.false_eq_true, if_false]
        exact fun _ _ _ _ _ h => ⟨rfl, h⟩
  | parameter m =>
    intro loops layers hloops
    refine inStep_get fun {c d} h => ?_
    have hmappings : c.mappings = d.mappings :=
      (congrArg Context.mappings h.bare : c.bare.mappings = d.bare.mappings)
    have hcollect : Blind known (collect s m) := blind_collect hE (hknown (.parameter m) rfl)
    rw [hmappings]
    exact inStep_bind (hcollect loops layers hloops) (fun _ => inStep_pure _) h

theorem blind_pieces {ps : List Piece}
    (hknown : ∀ part ∈ ps.filterMap Piece.part?, Token.mentioned part.text ⊆ known) :
    Blind known (pieces s ps) := by
  induction ps with
  | nil => exact blind_pure ""
  | cons p rest ih =>
    refine blind_bind (blind_piece hE fun part hp => ?_) fun text =>
      blind_bind (ih fun part hp => ?_) fun others => blind_pure _
    · exact hknown part (List.mem_filterMap.mpr ⟨p, List.mem_cons_self .., hp⟩)
    · obtain ⟨q, hq, hpart⟩ := List.mem_filterMap.mp hp
      exact hknown part (List.mem_filterMap.mpr ⟨q, List.mem_cons_of_mem _ hq, hpart⟩)

end Evaluated

theorem blind_append (text : String) : Blind known (append text) :=
  fun _ _ _ => inStep_aside (Context.aside_append text)

/-- What is run for an element is run in a scope and a loop more, and leaves
neither. -/
theorem blind_iteration {x : Render Unit} (hx : Blind known x) {head : LoopHead}
    (hhead : ∀ name ∈ head.names, Token.isName name = true) (separator : Option String)
    (key item : Value) : Blind known (iteration head separator key item x) := by
  intro loops layers h c d hR
  have hinside : InStep (Twins known (elementFrame c.iterations head :: loops)
        (elementVars c.iterations head key item :: layers))
      (x >>= fun _ => get >>= fun ctx : Context => pure ctx.hasApplied)
      (x >>= fun _ => get >>= fun ctx : Context => pure ctx.hasApplied) :=
    inStep_bind (hx _ _ (numbered_element h hhead _ key item)) fun _ =>
      inStep_get fun hR => ⟨congrArg Except.ok hR.hasApplied_eq, hR⟩
  obtain ⟨hresult, hafter⟩ := hinside (twins_enterElement hR head separator key item)
  exact ⟨hresult, twins_leaveIteration hafter⟩

-- ============================================================== nodes

/-- What the texts of a part mention is known, and if it is a loop, its
variables have names. -/
def Covered (known : List String) (part : Part) : Prop :=
  Token.mentioned part.text ⊆ known
    ∧ ∀ head, part = .loop head → ∀ name ∈ head.names, Token.isName name = true

/-- A render sees nothing of the arguments but what its texts mention. -/
theorem blind_compositional {s : Setting} (hE : s.evaluator.ReadsMentioned) :
    Compositional (fun _ : Unit => s) (Covered known) fun _ _ x => Blind known (x ()) where
  pure a := blind_pure a
  bind hx hf := blind_bind hx hf
  weaken hx := hx
  marks := fun _ _ _ => inStep_get fun h => ⟨congrArg Except.ok h.marks_eq, h⟩
  mark breaks := fun _ _ _ => inStep_aside (Context.aside_mark breaks)
  choice hx := fun loops layers h =>
    inStep_bracket id (fun hbefore hafter => hbefore.restoreMarks hafter) (hx loops layers h)
  scope hx := fun loops layers h c d hR => by
    obtain ⟨hresult, hafter⟩ := hx loops ([] :: layers) (h.cons []) hR.pushScope
    exact ⟨hresult, hafter.popScope⟩
  append text := blind_append text
  write ps ha := blind_bind (blind_pieces hE fun part hp => (ha part hp).1) fun text =>
    blind_append text
  bindVariable b ha := blind_bind (blind_value hE ha.1 "bind") fun v _ _ _ =>
    inStep_update fun h => h.put b.name v
  test tag text ha := fun _ _ _ => inStep_ask_twins text (fun h =>
    congrArg (Except.map Value.isTruthy) (evaluator_eq hE ha.1 h)) _
  elements head ha := blind_bind (fun _ _ _ => inStep_ask_twins head.collection (fun h =>
    congrArg (fun r => r >>= Evaluator.elements _) (evaluator_eq hE ha.1 h)) _) fun found =>
      blind_pure (found.getD [])
  iterations head found ha hx :=
    iterations_of_iteration (fun _ x => Blind known (x ())) (blind_pure ()) blind_bind
      (fun separator key item => blind_iteration hx (ha.2 head rfl) separator key item)
      found false 0

theorem blind_apply {s : Setting} (hE : s.evaluator.ReadsMentioned) {node : Node}
    (hcovered : ∀ part ∈ node.parts, Covered known part) : Blind known (node.apply s) :=
  (blind_compositional hE).node [] node fun p hp => hcovered _ (List.mem_map.mpr ⟨p, hp, rfl⟩)

/-- A node applied to arguments that agree on what its texts mention. -/
theorem outcome_apply_eq {s : Setting} (hE : s.evaluator.ReadsMentioned) {node : Node}
    (hcovered : ∀ part ∈ node.parts, Covered known part) {arguments arguments' : Arguments}
    (h : ∀ name ∈ known, Bindings.find? arguments name = Bindings.find? arguments' name) :
    (outcome (node.apply s) (Context.start arguments)).1
        = (outcome (node.apply s) (Context.start arguments')).1
      ∧ (outcome (node.apply s) (Context.start arguments)).2.bare
        = (outcome (node.apply s) (Context.start arguments')).2.bare := by
  have hnone : Numbered [] [] := fun f hf => nomatch hf
  obtain ⟨hresult, hafter⟩ := blind_apply hE hcovered [] [] hnone (Twins.start h)
  exact ⟨hresult, hafter.bare⟩

end Render

end DynamicSql
