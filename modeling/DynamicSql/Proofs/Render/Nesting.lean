/-
The scopes that a render makes are those that it is in at one time.

An iteration has a scope of its own, and so have branches that bind variables.
However often they are run, what is entered is left again, and the next one
takes the scope that was put aside. So the store holds as many scopes as there
were around any moment (`Climbs`), and no more than the template has inside of
each other (`Node.nesting`).

# Why moments suffice

A scope is entered for a body, and the first thing that a body does is to apply
its node. So each depth that is reached is that of a moment (`Opens`). Of
actions in general this is not true: one that enters a scope and does nothing
there makes a scope, and no moment tells of it. That is why the induction here
is one over nodes and goes through their bodies by hand.
-/
import DynamicSql.Proofs.Render.Course
import DynamicSql.Proofs.Render.ScopeDepth

namespace DynamicSql

-- =============================================================== nesting

namespace Template

mutual

/-- How many scopes are inside of each other at the most. -/
def Node.nesting : Node → Nat
  | .text _ => 0
  | .placeholders _ => 0
  | .bind _ => 0
  | .conditional first others otherwise =>
    max first.nesting (max (Branch.maxNesting others)
      (match otherwise with
        | some body => body.nesting
        | none => 0))
  | .choose cases otherwise _ =>
    max (Case.maxNesting cases)
      (match otherwise with
        | some body => body.nesting
        | none => 0)
  | .foreach _ body => body.nesting + 1
  | .sequence children => Node.maxNesting children

def Node.maxNesting : List Node → Nat
  | [] => 0
  | node :: rest => max node.nesting (Node.maxNesting rest)

def Body.nesting : Body → Nat
  | ⟨true, node⟩ => node.nesting + 1
  | ⟨false, node⟩ => node.nesting

def Branch.nesting : Branch → Nat
  | ⟨_, _, body, _⟩ => body.nesting

def Branch.maxNesting : List Branch → Nat
  | [] => 0
  | branch :: rest => max branch.nesting (Branch.maxNesting rest)

def Case.maxNesting : List Case → Nat
  | [] => 0
  | ⟨_, _, body, _⟩ :: rest => max body.nesting (Case.maxNesting rest)

end

end Template

namespace Render

open Context (Level peak peak_cons peak_append)
open Template (Node Body Branch Case Piece LoopHead Bind)

variable {α β : Type} {c d e : Context} {t t' : List Moment} {k : Nat}

-- =============================================================== courses

/-- Each of the contexts has as many scopes as there were before, or as it
takes to come so deep. -/
def Paced : (length : Nat) → List Context → Prop
  | _, [] => True
  | length, c :: rest =>
    c.Tidy ∧ c.scopes.scopes.length = max length (1 + c.depth)
      ∧ Paced (max length (1 + c.depth)) rest

theorem paced_append {length : Nat} {cs ds : List Context} :
    Paced length (cs ++ ds) ↔ Paced length cs ∧ Paced (max length (1 + peak cs)) ds := by
  induction cs generalizing length with
  | nil =>
    -- One scope is there in any case, so the least length does not count.
    have hroot : Paced (max length 1) ds ↔ Paced length ds := by
      cases ds with
      | nil => exact Iff.rfl
      | cons c rest =>
        have hsame : max (max length 1) (1 + c.depth) = max length (1 + c.depth) := by omega
        rw [Paced, Paced, hsame]
    exact ⟨fun h => ⟨trivial, hroot.mpr h⟩, fun h => hroot.mp h.2⟩
  | cons c rest ih =>
    have hsame : max (max length (1 + c.depth)) (1 + peak rest)
        = max length (1 + max c.depth (peak rest)) := by omega
    rw [List.cons_append, Paced, Paced, ih, hsame, peak_cons, and_assoc, and_assoc]

/-- At each of the contexts, the store is as deep as those so far. -/
theorem Paced.at_context {length : Nat} {before after : List Context}
    (h : Paced length (before ++ c :: after)) :
    c.Tidy ∧ c.scopes.scopes.length = max length (1 + peak (before ++ [c])) := by
  obtain ⟨-, htidy, hlength, -⟩ := paced_append.mp h
  have hpeak : peak (before ++ [c]) = max (peak before) c.depth := by
    rw [peak_append]
    exact congrArg (max _) (Nat.max_zero _)
  refine ⟨htidy, hlength.trans ?_⟩
  rw [hpeak]
  omega

/-- What was entered is left, and the store has grown as deep as the moments
were, which is not deeper than allowed. -/
structure Climbs (k : Nat) (c : Context) (t : List Moment) (d : Context) : Prop where
  tidy : d.Tidy
  depth : d.depth = c.depth
  length : d.scopes.scopes.length
    = max c.scopes.scopes.length (1 + peak (t.map Moment.ctx))
  paced : Paced c.scopes.scopes.length (t.map Moment.ctx)
  bound : ∀ m ∈ t, m.ctx.depth ≤ c.depth + k

namespace Climbs

theorem of_level (h : Level c d) : Climbs k c [] d where
  tidy := h.tidy
  depth := h.depth
  length := by
    have hlength := h.tidy.length_eq
    have hsame := h.length
    show _ = max _ (1 + 0)
    omega
  paced := trivial
  bound _ hm := nomatch hm

/-- Nothing is done to scopes. -/
theorem of_eq (hc : c.Tidy) (hscopes : d.scopes = c.scopes) (hcurrent : d.current = c.current) :
    Climbs k c [] d :=
  of_level (.of_eq hc hscopes hcurrent)

theorem trans (h : Climbs k c t d) (h' : Climbs k d t' e) : Climbs k c (t ++ t') e where
  tidy := h'.tidy
  depth := h'.depth.trans h.depth
  length := by
    have hfirst := h.length
    have hsecond := h'.length
    rw [List.map_append, peak_append]
    omega
  paced := by
    rw [List.map_append, paced_append, ← h.length]
    exact ⟨h.paced, h'.paced⟩
  bound m hm := by
    rcases List.mem_append.mp hm with hm | hm
    · exact h.bound m hm
    · exact h.depth ▸ h'.bound m hm

/-- A moment comes before what happens in it. -/
theorem cons (hc : c.Tidy) (h : Climbs k c t d) {m : Moment} (hm : m.ctx = c) :
    Climbs k c (m :: t) d where
  tidy := h.tidy
  depth := h.depth
  length := by
    have hlength := hc.length_eq
    have hgrown := h.length
    rw [List.map_cons, peak_cons, hm]
    omega
  paced := by
    have hlength := hc.length_eq
    have hsame : max c.scopes.scopes.length (1 + c.depth) = c.scopes.scopes.length := by omega
    rw [List.map_cons, hm, Paced, hsame]
    exact ⟨hc, rfl, h.paced⟩
  bound m' hm' := by
    rcases List.mem_cons.mp hm' with rfl | hm'
    · exact hm ▸ Nat.le_add_right ..
    · exact h.bound m' hm'

/-- What comes last may do something other than with scopes. -/
theorem congr (h : Climbs k c t d) (hscopes : e.scopes = d.scopes)
    (hcurrent : e.current = d.current) : Climbs k c t e := by
  have hboth := h.trans (of_eq h.tidy hscopes hcurrent)
  rwa [List.append_nil] at hboth

theorem leaveIteration (h : Climbs k c t d.popScope) : Climbs k c t d.leaveIteration :=
  h.congr rfl rfl

/-- What begins with a moment in a scope of its own, and is left. -/
theorem inside (hc : c.Tidy) (henter : Level c.pushScope e) (h : Climbs k e t d)
    (hopens : ∃ m rest, t = m :: rest ∧ m.ctx = e) : Climbs (k + 1) c t d.popScope := by
  obtain ⟨m, rest, rfl, hm⟩ := hopens
  obtain ⟨htidy, hdepth, hpushed⟩ := hc.pushScope
  have henter' := henter.depth
  have hlength := henter.length
  have hd := h.depth
  have hgrown := h.length
  obtain ⟨hleft, hback, hkept⟩ := h.tidy.popScope (by omega)
  have hpeak : c.depth + 1 ≤ peak ((m :: rest).map Moment.ctx) := by
    rw [List.map_cons, peak_cons, hm]
    omega
  refine ⟨hleft, by omega, by omega, ?_, fun m' hm' => ?_⟩
  · have hpaced := h.paced
    rw [List.map_cons, hm, Paced] at hpaced ⊢
    have hsame : max e.scopes.scopes.length (1 + e.depth)
        = max c.scopes.scopes.length (1 + e.depth) := by omega
    rwa [hsame] at hpaced
  · have hbound := h.bound m' hm'
    omega

end Climbs

-- ============================================================== actions

/-- Wherever the action is begun, its course climbs so far at the most. -/
def Nests (k : Nat) (x : Traced α) : Prop :=
  Follows (fun _ c t _ d => c.Tidy → Climbs k c t d) [] x

/-- The first moment of the action is the one at which it is begun. -/
def Opens (x : Traced α) : Prop := ∀ c, ∃ m rest, x.trace c = m :: rest ∧ m.ctx = c

theorem Opens.bind {x : Traced α} (h : Opens x) {f : α → Traced β} : Opens (x >>= f) := by
  intro c
  obtain ⟨m, rest, htrace, hm⟩ := h c
  refine ⟨m, rest ++ Traced.after x.run (fun a => (f a).trace) c, ?_, hm⟩
  rw [Traced.trace_bind, htrace, List.cons_append]

theorem Opens.ignoring {x : Traced α} (h : Opens x) : Opens (Traced.ignoring x) := h.bind

/-- Every node is a moment when it is applied. -/
theorem opens_node (s : Setting) (n : Node) : Opens (n.traced s) := by
  intro c
  cases n with
  | conditional first others otherwise => cases otherwise <;> exact ⟨_, _, rfl, rfl⟩
  | choose cases otherwise span => cases otherwise <;> exact ⟨_, _, rfl, rfl⟩
  | _ => exact ⟨_, _, rfl, rfl⟩

theorem piecewise_climbs (k : Nat) :
    Piecewise (fun _ => True) fun _ c t _ d => c.Tidy → Climbs k c t d where
  stay _ hc := .of_eq hc rfl rfl
  trans h h' hc := (h hc).trans (h' (h hc).tidy)
  ask _ _ hc := .of_eq hc rfl rfl
  addValue _ hc := .of_eq hc rfl rfl
  collect _ _ h hc := ((h hc).cons hc rfl).congr rfl rfl
  refuse _ h hc := (h hc).cons hc rfl

/-- An iteration is in a scope of its own, with its variables. -/
theorem level_enterElement (hc : c.Tidy) (head : LoopHead) (separator : Option String)
    (key item : Value) :
    Context.Level c.pushScope (enterElement c head separator key item) := by
  have henter : Context.Level c.pushScope (c.enterIteration head.item head.index separator) :=
    .of_eq hc.pushScope.1 rfl rfl
  have hindex := henter.tidy.putLoopVariable c.iterations head.index key
  have hitem := hindex.tidy.putLoopVariable c.iterations head.item item
  exact (henter.trans hindex).trans hitem

namespace Nests

variable {s : Setting}

theorem mono {l : Nat} {x : Traced α} (h : Nests k x) (hle : k ≤ l) : Nests l x := fun c hc =>
  have hcourse := h c hc
  ⟨hcourse.tidy, hcourse.depth, hcourse.length, hcourse.paced,
    fun m hm => Nat.le_trans (hcourse.bound m hm) (Nat.add_le_add_left hle _)⟩

theorem pure (a : α) : Nests k (Pure.pure a : Traced α) := (piecewise_climbs k).follows_pure a

theorem bind {x : Traced α} {f : α → Traced β} (hx : Nests k x) (hf : ∀ a, Nests k (f a)) :
    Nests k (x >>= f) := (piecewise_climbs k).follows_bind hx hf

/-- An action without moments that leaves the scopes alone, also if it fails. -/
theorem silent {x : Render α} (h : ∀ c, (outcome x c).2.scopes = c.scopes
    ∧ (outcome x c).2.current = c.current) : Nests k (Traced.silent x) := fun c hc =>
  .of_eq hc (h c).1 (h c).2

theorem append (text : String) : Nests k (Traced.silent (Render.append text)) :=
  silent fun c =>
    have hsilence := Context.silence_append c text
    ⟨(congrArg Context.scopes hsilence :), (congrArg Context.current hsilence :)⟩

theorem appendOption (text : Option String) :
    Nests k (Traced.silent (Render.appendOption text)) := by
  cases text with
  | none => exact pure ()
  | some text => exact append text

theorem write (ps : List Piece) : Nests k (Traced.write s ps) :=
  bind ((piecewise_climbs k).follows_pieces ps fun _ _ => trivial) fun text => append text

theorem test (tag text : String) : Nests k (Traced.silent (holds s tag text)) :=
  (piecewise_climbs k).follows_ask text _ _

theorem elements (text : String) (nullable : Bool) :
    Nests k (Traced.silent (Render.elements s text nullable)) :=
  (piecewise_climbs k).follows_silent_bind ((piecewise_climbs k).follows_ask _ _ _) fun _ =>
    (piecewise_climbs k).follows_silent_pure _

theorem bindVariable (b : Bind) : Nests k (Traced.silent (Render.bindVariable s b)) :=
  (piecewise_climbs k).follows_silent_bind ((piecewise_climbs k).follows_ask b.value _ _)
    fun v _ hc => .of_level (hc.put b.name v)

theorem handledBy {x : Traced Unit} (h : Nests k x) : Nests k (Traced.handledBy x) :=
  h.bind fun _ => pure true

theorem ignoring {x : Traced α} (h : Nests k x) : Nests k (Traced.ignoring x) :=
  h.bind fun _ => pure ()

theorem noting {x : Traced Bool} (n : Node) (h : Nests k x) :
    Nests k (Traced.noting (.node n) x) := fun c hc => (h c hc).cons hc rfl

-- =============================================== scopes and iterations

theorem inScope {x : Traced Unit} (h : Nests k x) (hopens : Opens x) :
    Nests (k + 1) (Traced.inScope true x) := fun c hc =>
  have hinside : Context.Level c.pushScope c.pushScope := ⟨hc.pushScope.1, rfl, rfl⟩
  (h c.pushScope hinside.tidy).inside hc hinside (hopens c.pushScope)

theorem iteration {body : Traced Unit} (h : Nests k body) (hopens : Opens body)
    (head : LoopHead) (separator : Option String) (key item : Value) :
    Nests (k + 1) (Traced.iteration head separator key item body) := by
  intro c hc
  have henter := level_enterElement hc head separator key item
  have hasked : Nests k (body >>= fun _ =>
      Traced.silent (get >>= fun ctx : Context => Pure.pure ctx.hasApplied)) :=
    h.bind fun _ => silent fun _ => ⟨rfl, rfl⟩
  have hinside := (hasked _ henter.tidy).inside hc henter (hopens.bind _)
  exact hinside.leaveIteration.cons hc (m := .iteration head c) rfl

theorem iterations {body : Traced Unit} (h : Nests k body) (hopens : Opens body)
    (head : LoopHead) (found : List Element) (wrote : Bool) (position : Nat) :
    Nests (k + 1) (Traced.iterations head body wrote position found) := by
  induction found generalizing wrote position with
  | nil => exact pure ()
  | cons e rest ih =>
    exact bind (h.iteration hopens head _ _ _) fun applied => ih (wrote || applied) (position + 1)

theorem loop {body : Traced Unit} (h : Nests k body) (hopens : Opens body) (head : LoopHead) :
    Nests (k + 1) (Traced.loop s head body) := by
  refine bind (elements _ _) fun found => ?_
  cases found with
  | nil => exact pure ()
  | cons e rest =>
    refine bind (appendOption head.opening) fun _ => ?_
    refine bind (h.iterations hopens head (e :: rest) false 0) fun _ => ?_
    exact appendOption head.closing

-- ============================================================ branches

theorem branch {body : Traced Unit} {next : Traced Bool} (h : Nests k body)
    (hnext : Nests k next) (tag text : String) :
    Nests k (Traced.branch s tag text body next) := by
  refine bind (test tag text) fun taken => ?_
  cases taken with
  | true => exact h.handledBy
  | false => exact hnext

theorem case {body : Traced Unit} (h : Nests k body) (text : String) (breaks : Bool) :
    Nests k (Traced.case s text breaks body) := by
  refine bind (silent fun _ => ⟨rfl, rfl⟩) fun ctx => ?_
  cases ctx.matched && !ctx.broke with
  | true => exact h.handledBy
  | false =>
    refine bind (test "when" text) fun taken => ?_
    cases taken with
    | true => exact bind h fun _ => bind (silent fun _ => ⟨rfl, rfl⟩) fun _ => pure true
    | false => exact pure false

theorem andThenCases {first rest : Traced Bool} (hfirst : Nests k first)
    (hrest : Nests k rest) : Nests k (Traced.andThenCases first rest) := by
  refine bind hfirst fun handled => bind (silent fun _ => ⟨rfl, rfl⟩) fun ctx => ?_
  cases ctx.matched && ctx.broke with
  | true => exact pure handled
  | false => exact bind hrest fun later => pure (handled || later)

theorem choice {cases : Traced Bool} {last : Option (Traced Unit)} (hcases : Nests k cases)
    (hlast : ∀ x ∈ last, Nests k x) : Nests k (Traced.choice cases last) := by
  have hthen : ∀ {rest : Bool → Traced Bool}, (∀ handled, Nests k (rest handled)) →
      Nests k (Traced.bracket id restoreMarks (cases >>= fun handled =>
        Traced.silent get >>= fun ctx : Context =>
          if ctx.matched then Pure.pure handled else rest handled)) := by
    intro rest hrest
    have hlook : ∀ (handled : Bool) (ctx : Context),
        Nests k (if ctx.matched then Pure.pure handled else rest handled) := by
      intro handled ctx
      cases ctx.matched with
      | true => exact pure handled
      | false => exact hrest handled
    have hinside := bind hcases fun handled =>
      bind (x := Traced.silent get) (silent fun _ => ⟨rfl, rfl⟩) (hlook handled)
    exact fun c hc => (hinside c hc).congr rfl rfl
  cases last with
  | none => exact hthen pure
  | some body => exact hthen fun _ => (hlast body rfl).handledBy

end Nests

end Render

-- ================================================================ nodes

namespace Template

open Render (Nests Traced opens_node)

-- The induction is on nodes and what they are made of. A branch hands on to
-- what comes after it, and cases to later ones, so these take a bound for all.

mutual

/-- Applied anywhere, a node climbs no further than its scopes are inside of
each other. -/
theorem Node.nests (s : Setting) : (n : Node) → Nests n.nesting (n.traced s)
  | .text content => .noting _ (.bind (.append content) fun _ => .pure true)
  | .placeholders t => .noting _ (Nests.write t.pieces).handledBy
  | .bind b => .noting _ (.bind (.bindVariable b) fun _ => .pure false)
  | .conditional first others none => by
    refine .noting _ (Branch.nests s first (Nat.le_max_left ..) (Branch.nests_all s others ?_ ?_))
    · exact Nat.le_trans (Nat.le_max_left ..) (Nat.le_max_right ..)
    · exact .pure false
  | .conditional first others (some body) => by
    refine .noting _ (Branch.nests s first (Nat.le_max_left ..) (Branch.nests_all s others ?_ ?_))
    · exact Nat.le_trans (Nat.le_max_left ..) (Nat.le_max_right ..)
    · have hlast : body.nesting ≤ (Node.conditional first others (some body)).nesting :=
        Nat.le_trans (Nat.le_max_right ..) (Nat.le_max_right ..)
      exact ((Body.nests s body).mono hlast).handledBy
  | .choose cases none _ =>
    .noting _ (.choice (Case.nests s cases (Nat.le_max_left ..)) nofun)
  | .choose cases (some body) _ => by
    refine .noting _ (.choice (Case.nests s cases (Nat.le_max_left ..)) fun x hx => ?_)
    obtain rfl := Option.some.inj hx
    exact (Body.nests s body).mono (Nat.le_max_right ..)
  | .foreach head body =>
    .noting _ ((Node.nests s body).ignoring.loop (opens_node s body).ignoring head).handledBy
  | .sequence children =>
    .noting _ (.bind (Node.nests_all s children) fun _ => .pure true)

theorem Node.nests_all (s : Setting) :
    (ns : List Node) → Nests (Node.maxNesting ns) (Node.tracedAll s ns)
  | [] => .pure ()
  | n :: rest =>
    .bind ((Node.nests s n).mono (Nat.le_max_left ..)).ignoring fun _ =>
      (Node.nests_all s rest).mono (Nat.le_max_right ..)

theorem Body.nests (s : Setting) : (b : Body) → Nests b.nesting (b.traced s)
  | ⟨true, n⟩ => (Node.nests s n).ignoring.inScope (opens_node s n).ignoring
  | ⟨false, n⟩ => (Node.nests s n).ignoring

theorem Branch.nests (s : Setting) {k : Nat} {next : Traced Bool} :
    (b : Branch) → b.nesting ≤ k → Nests k next → Nests k (b.traced s next)
  | ⟨tag, test, body, _⟩, hle, hnext => ((Body.nests s body).mono hle).branch hnext tag.name test

theorem Branch.nests_all (s : Setting) {k : Nat} {next : Traced Bool} :
    (bs : List Branch) → Branch.maxNesting bs ≤ k → Nests k next →
      Nests k (Branch.tracedAll s next bs)
  | [], _, hnext => hnext
  | b :: rest, hle, hnext =>
    have hparts := Nat.max_le.mp hle
    Branch.nests s b hparts.1 (Branch.nests_all s rest hparts.2 hnext)

theorem Case.nests (s : Setting) {k : Nat} :
    (cs : List Case) → Case.maxNesting cs ≤ k → Nests k (Case.tracedAll s cs)
  | [], _ => .pure false
  | ⟨test, breaks, body, _⟩ :: rest, hle =>
    have hparts := Nat.max_le.mp hle
    .andThenCases (((Body.nests s body).mono hparts.1).case test breaks)
      (Case.nests s rest hparts.2)

end

end Template

end DynamicSql
