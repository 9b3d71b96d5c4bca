/-
The course of a render: where it applies nodes, enters iterations and
collects parameters, and in which contexts.

# Why a second semantics

Applying a node tells what comes out of it. What happens in between is not
in the result: a loop that is over has taken its scopes and frames with it.
Statements about every point of a render need those contexts. So nodes are
applied a second time here, by actions that also list their moments. Their
runs are the actions of `Node.apply` (`run_traced`), and each moment has the
context that the run has there.

A moment comes before what happens in it, and a run that fails has moments
up to its failure.
-/
import DynamicSql.Proofs.Render.Outcome
import DynamicSql.Proofs.Template.Parts

namespace DynamicSql.Render

open Template (Node Body Branch Case Piece LoopHead Bind)

variable {α β : Type}

/-- Something that is about to happen, and the context in which it does. -/
inductive Moment where
  /-- A node is applied. -/
  | node (node : Node) (ctx : Context)
  /-- An iteration is entered, and takes the next number. -/
  | iteration (head : LoopHead) (ctx : Context)
  /-- A parameter is collected. -/
  | parameter (mapping : Parameter.Mapping) (ctx : Context)

def Moment.ctx : Moment → Context
  | .node _ ctx => ctx
  | .iteration _ ctx => ctx
  | .parameter _ ctx => ctx

/-- The parameters collected in a course, each with the context in which it
is. -/
def collected (moments : List Moment) : List (Parameter.Mapping × Context) :=
  moments.filterMap fun
    | .parameter mapping ctx => some (mapping, ctx)
    | _ => none

theorem mem_collected {moments : List Moment} {m : Parameter.Mapping} {c : Context} :
    (m, c) ∈ collected moments ↔ .parameter m c ∈ moments := by
  rw [collected, List.mem_filterMap]
  constructor
  · rintro ⟨moment, hmem, hsome⟩
    cases moment with
    | node n ctx => cases hsome
    | iteration head ctx => cases hsome
    | parameter mapping ctx =>
      obtain ⟨rfl, rfl⟩ := Prod.mk.inj (Option.some.inj hsome)
      exact hmem
  · intro hmem
    exact ⟨_, hmem, rfl⟩

/-- An action, and its moments when it is begun in a context. -/
structure Traced (α : Type) where
  run : Render α
  trace : Context → List Moment

namespace Traced

-- ============================================================== actions

/-- An action in which no moment is worth telling. -/
def silent (x : Render α) : Traced α := ⟨x, fun _ => []⟩

/-- The moments of what follows an action; none if the action fails. -/
def after (x : Render α) (next : α → Context → List Moment) (c : Context) : List Moment :=
  match outcome x c with
  | (.ok a, d) => next a d
  | (.error _, _) => []

instance : Monad Traced where
  pure a := silent (pure a)
  bind x f := ⟨x.run >>= fun a => (f a).run,
    fun c => x.trace c ++ after x.run (fun a => (f a).trace) c⟩

/-- The action with a moment of its own. -/
def noting (moment : Context → Moment) (x : Traced α) : Traced α :=
  ⟨x.run, fun c => moment c :: x.trace c⟩

def bracket (enter : Context → Context) (leave : Context → Context → Context) (x : Traced α) :
    Traced α :=
  ⟨Render.bracket enter leave x.run, fun c => x.trace (enter c)⟩

def ignoring (x : Traced α) : Traced Unit := do
  let _ ← x
  return ()

theorem after_ok {x : Render α} {next : α → Context → List Moment} {a : α} {c d : Context}
    (h : outcome x c = (.ok a, d)) : after x next c = next a d := by
  rw [after, h]

theorem after_error {x : Render α} {next : α → Context → List Moment} {e : RenderError}
    {c d : Context} (h : outcome x c = (.error e, d)) : after x next c = [] := by
  rw [after, h]

@[simp] theorem run_bind (x : Traced α) (f : α → Traced β) :
    (x >>= f).run = x.run >>= fun a => (f a).run := rfl

theorem trace_bind (x : Traced α) (f : α → Traced β) (c : Context) :
    (x >>= f).trace c = x.trace c ++ after x.run (fun a => (f a).trace) c := rfl

@[simp] theorem trace_silent (x : Render α) (c : Context) : (silent x).trace c = [] := rfl

-- ================================================================= text

/-- The text of a piece. -/
def piece (s : Setting) (p : Piece) : Traced String :=
  match p with
  | .parameter mapping => noting (.parameter mapping) (silent (Render.piece s p))
  | _ => silent (Render.piece s p)

/-- The text of pieces, one after the other. -/
def pieces (s : Setting) : List Piece → Traced String
  | [] => pure ""
  | p :: rest => do
    let text ← piece s p
    let others ← pieces s rest
    return text ++ others

/-- Writes a text with placeholders. -/
def write (s : Setting) (ps : List Piece) : Traced Unit := do
  let text ← pieces s ps
  silent (append text)

-- ================================================================ loops

/-- Runs the body of a loop for one element. -/
def iteration (head : LoopHead) (separator : Option String) (key item : Value)
    (body : Traced Unit) : Traced Bool :=
  noting (.iteration head) <|
    bracket (fun ctx => ctx.enterIteration head.item head.index separator)
      (fun _ after => after.leaveIteration) do
      silent (update fun ctx =>
        let unique := ctx.iterations - 1
        (ctx.putLoopVariable unique head.index key).putLoopVariable unique head.item item)
      body
      silent (get >>= fun ctx => pure ctx.hasApplied)

/-- Runs the body of a loop for elements from a position on. -/
def iterations (head : LoopHead) (body : Traced Unit) :
    (wrote : Bool) → (position : Nat) → List Element → Traced Unit
  | _, _, [] => pure ()
  | wrote, position, e :: rest => do
    let (key, item) := keyAndItem position e
    let separator := if wrote then head.separator else none
    let applied ← iteration head separator key item body
    iterations head body (wrote || applied) (position + 1) rest

/-- Runs a loop. -/
def loop (s : Setting) (head : LoopHead) (body : Traced Unit) : Traced Unit := do
  let found ← silent (elements s head.collection (head.nullable.getD s.foreachNullable))
  if found.isEmpty then pure ()
  else
    silent (appendOption head.opening)
    iterations head body false 0 found
    silent (appendOption head.closing)

-- ============================================================== branches

/-- Does something in a scope of its own, or in the one that is there. -/
def inScope (own : Bool) (x : Traced Unit) : Traced Unit :=
  if own then bracket Context.pushScope (fun _ after => after.popScope) x else x

def handledBy (body : Traced Unit) : Traced Bool := do
  body
  return true

/-- Takes a branch if its test holds, and otherwise does something else. -/
def branch (s : Setting) (tag test : String) (body : Traced Unit) (otherwise : Traced Bool) :
    Traced Bool := do
  let taken ← silent (holds s tag test)
  if taken then
    body
    return true
  else otherwise

/-- Takes a case of a choice. -/
def case (s : Setting) (test : String) (breaks : Bool) (body : Traced Unit) : Traced Bool := do
  let ctx ← silent get
  if ctx.matched && !ctx.broke then handledBy body
  else
    let taken ← silent (holds s "when" test)
    if taken then
      body
      silent (update fun ctx => { ctx with matched := true, broke := breaks })
      return true
    else return false

/-- Runs a choice by running its cases, and what is left for when none of
them is taken. -/
def choice (cases : Traced Bool) (otherwise : Option (Traced Unit)) : Traced Bool :=
  bracket id restoreMarks do
    let handled ← cases
    let ctx ← silent get
    if ctx.matched then return handled
    else
      match otherwise with
      | some body => handledBy body
      | none => return handled

/-- Runs the cases after the first unless it ended the choice. -/
def andThenCases (first rest : Traced Bool) : Traced Bool := do
  let handled ← first
  let ctx ← silent get
  if ctx.matched && ctx.broke then return handled
  else
    let later ← rest
    return handled || later

end Traced

end DynamicSql.Render

-- ================================================================ nodes

namespace DynamicSql.Template

open Render Render.Traced

mutual

/-- Applies a node and lists its moments. -/
def Node.traced (s : Setting) : Node → Traced Bool
  | .text content => noting (.node (.text content)) do
    silent (append content)
    return true
  | .placeholders t => noting (.node (.placeholders t)) (handledBy (Traced.write s t.pieces))
  | .bind b => noting (.node (.bind b)) do
    silent (bindVariable s b)
    return false
  | .conditional first others otherwise =>
    let last : Traced Bool := match otherwise with
      | some body => Traced.handledBy (body.traced s)
      | none => return false
    noting (.node (.conditional first others otherwise))
      (first.traced s (Branch.tracedAll s last others))
  | .choose cases otherwise span =>
    noting (.node (.choose cases otherwise span))
      (Traced.choice (Case.tracedAll s cases)
        (match otherwise with
          | some body => some (body.traced s)
          | none => none))
  | .foreach head body =>
    noting (.node (.foreach head body))
      (Traced.handledBy (Traced.loop s head (ignoring (body.traced s))))
  | .sequence children => noting (.node (.sequence children)) do
    Node.tracedAll s children
    return true

/-- Applies nodes one after the other. -/
def Node.tracedAll (s : Setting) : List Node → Traced Unit
  | [] => return ()
  | node :: rest => do
    ignoring (node.traced s)
    Node.tracedAll s rest

/-- Applies the body of a branch. -/
def Body.traced (s : Setting) : Body → Traced Unit
  | ⟨ownScope, node⟩ => Traced.inScope ownScope (ignoring (node.traced s))

/-- Applies a branch, or what comes after it. -/
def Branch.traced (s : Setting) (next : Traced Bool) : Branch → Traced Bool
  | ⟨tag, test, body, _⟩ => Traced.branch s tag.name test (body.traced s) next

/-- Applies the first of several branches whose test holds, or what comes
after them. -/
def Branch.tracedAll (s : Setting) (next : Traced Bool) : List Branch → Traced Bool
  | [] => next
  | first :: rest => first.traced s (Branch.tracedAll s next rest)

/-- Applies the cases of a choice. -/
def Case.tracedAll (s : Setting) : List Case → Traced Bool
  | [] => return false
  | ⟨test, breaks, body, _⟩ :: rest =>
    Traced.andThenCases (Traced.case s test breaks (body.traced s)) (Case.tracedAll s rest)

end

end DynamicSql.Template

-- ================================================================= runs

namespace DynamicSql.Render

open Template (Node Body Branch Case Piece LoopHead Bind)

namespace Traced

@[simp] theorem run_piece (s : Setting) (p : Piece) : (piece s p).run = Render.piece s p := by
  cases p <;> rfl

@[simp] theorem run_pieces (s : Setting) (ps : List Piece) :
    (pieces s ps).run = Render.pieces s ps := by
  induction ps with
  | nil => rfl
  | cons p rest ih =>
    show (do
      let text ← (piece s p).run
      let others ← (pieces s rest).run
      pure (text ++ others)) = _
    rw [run_piece, ih]
    rfl

@[simp] theorem run_write (s : Setting) (ps : List Piece) :
    (write s ps).run = Render.write s ps :=
  congrArg (· >>= append) (run_pieces s ps)

@[simp] theorem run_iterations (head : LoopHead) (body : Traced Unit) (wrote : Bool)
    (position : Nat) (found : List Element) :
    (iterations head body wrote position found).run
      = Render.iterations head body.run wrote position found := by
  induction found generalizing wrote position with
  | nil => rfl
  | cons e rest ih => exact congrArg (Bind.bind _) (funext fun applied => ih _ _)

@[simp] theorem run_loop (s : Setting) (head : LoopHead) (body : Traced Unit) :
    (loop s head body).run = Render.loop s head body.run := by
  refine congrArg (Bind.bind _) (funext fun found => ?_)
  cases found with
  | nil => rfl
  | cons e rest =>
    refine congrArg (Bind.bind _) (funext fun _ => ?_)
    exact congrArg (· >>= fun _ => Render.appendOption head.closing)
      (run_iterations head body false 0 (e :: rest))

@[simp] theorem run_inScope (own : Bool) (x : Traced Unit) :
    (inScope own x).run = Render.inScope own x.run := by
  cases own <;> rfl

@[simp] theorem run_branch (s : Setting) (tag test : String) (body : Traced Unit)
    (otherwise : Traced Bool) :
    (branch s tag test body otherwise).run
      = Render.branch s tag test body.run otherwise.run := by
  refine congrArg (Bind.bind _) (funext fun taken => ?_)
  cases taken <;> rfl

@[simp] theorem run_case (s : Setting) (test : String) (breaks : Bool) (body : Traced Unit) :
    (case s test breaks body).run = Render.case s test breaks body.run := by
  refine congrArg (Bind.bind _) (funext fun ctx => ?_)
  cases h : ctx.matched && !ctx.broke with
  | true =>
    simp only [h, if_true]
    rfl
  | false =>
    simp only [h, Bool.false_eq_true, if_false]
    refine congrArg (Bind.bind _) (funext fun taken => ?_)
    cases taken <;> rfl

@[simp] theorem run_choice (cases : Traced Bool) (otherwise : Option (Traced Unit)) :
    (choice cases otherwise).run = Render.choice cases.run (otherwise.map Traced.run) := by
  simp only [choice, bracket, Render.choice, run_bind]
  congr 1
  refine congrArg (Bind.bind _) (funext fun handled => ?_)
  refine congrArg (Bind.bind _) (funext fun ctx => ?_)
  cases ctx.matched with
  | true =>
    simp only [if_true]
    rfl
  | false =>
    simp only [Bool.false_eq_true, if_false]
    cases otherwise <;> rfl

@[simp] theorem run_andThenCases (first rest : Traced Bool) :
    (andThenCases first rest).run = Render.andThenCases first.run rest.run := by
  refine congrArg (Bind.bind _) (funext fun handled => ?_)
  refine congrArg (Bind.bind _) (funext fun ctx => ?_)
  cases h : ctx.matched && ctx.broke with
  | true =>
    simp only [h, if_true]
    rfl
  | false =>
    simp only [h, Bool.false_eq_true, if_false]
    rfl

end Traced

end DynamicSql.Render

namespace DynamicSql.Template

open Render

mutual

/-- Listing the moments of a node changes nothing about applying it. -/
theorem Node.run_traced (s : Setting) : (n : Node) → (n.traced s).run = n.apply s
  | .text _ => rfl
  | .placeholders t => by
    show handledBy (Traced.write s t.pieces).run = _
    rw [Traced.run_write, apply_placeholders]
  | .bind b => (apply_bind s b).symm
  | .conditional first others none => by
    show (first.traced s (Branch.tracedAll s (pure false) others)).run = _
    rw [Branch.run_traced s first, Branch.run_tracedAll s others]
    rfl
  | .conditional first others (some body) => by
    show (first.traced s (Branch.tracedAll s (Traced.handledBy (body.traced s)) others)).run = _
    rw [Branch.run_traced s first, Branch.run_tracedAll s others]
    show first.apply s (Branch.applyAll s (handledBy (body.traced s).run) others) = _
    rw [Body.run_traced s body]
    rfl
  | .choose cases none _ => by
    show (Traced.choice (Case.tracedAll s cases) none).run = _
    rw [Traced.run_choice, Case.run_tracedAll s cases]
    rfl
  | .choose cases (some body) _ => by
    show (Traced.choice (Case.tracedAll s cases) (some (body.traced s))).run = _
    rw [Traced.run_choice, Case.run_tracedAll s cases, Option.map_some, Body.run_traced s body]
    rfl
  | .foreach head body => by
    show handledBy (Traced.loop s head (Traced.ignoring (body.traced s))).run = _
    rw [Traced.run_loop]
    show handledBy (loop s head ((body.traced s).run >>= fun _ => pure ())) = _
    rw [Node.run_traced s body]
    rfl
  | .sequence children =>
    congrArg (· >>= fun _ => pure true) (Node.run_tracedAll s children)

theorem Node.run_tracedAll (s : Setting) :
    (ns : List Node) → (Node.tracedAll s ns).run = Node.applyAll s ns
  | [] => rfl
  | n :: rest => by
    show (n.traced s).run >>= (fun _ => pure ()) >>= (fun _ => (Node.tracedAll s rest).run) = _
    rw [Node.run_traced s n, Node.run_tracedAll s rest]
    rfl

theorem Body.run_traced (s : Setting) : (b : Body) → (b.traced s).run = b.apply s
  | ⟨own, n⟩ => by
    show (Traced.inScope own (Traced.ignoring (n.traced s))).run = _
    rw [Traced.run_inScope]
    show inScope own ((n.traced s).run >>= fun _ => pure ()) = _
    rw [Node.run_traced s n]
    rfl

theorem Branch.run_traced (s : Setting) {next : Traced Bool} :
    (b : Branch) → (b.traced s next).run = b.apply s next.run
  | ⟨tag, test, body, _⟩ => by
    show (Traced.branch s tag.name test (body.traced s) next).run = _
    rw [Traced.run_branch, Body.run_traced s body]
    rfl

theorem Branch.run_tracedAll (s : Setting) {next : Traced Bool} :
    (bs : List Branch) → (Branch.tracedAll s next bs).run = Branch.applyAll s next.run bs
  | [] => rfl
  | b :: rest => by
    show (b.traced s (Branch.tracedAll s next rest)).run = _
    rw [Branch.run_traced s b, Branch.run_tracedAll s rest]
    rfl

theorem Case.run_tracedAll (s : Setting) :
    (cs : List Case) → (Case.tracedAll s cs).run = Case.applyAll s cs
  | [] => rfl
  | ⟨test, breaks, body, _⟩ :: rest => by
    show (Traced.andThenCases (Traced.case s test breaks (body.traced s))
      (Case.tracedAll s rest)).run = _
    rw [Traced.run_andThenCases, Traced.run_case, Body.run_traced s body,
      Case.run_tracedAll s rest]
    rfl

end

end DynamicSql.Template
