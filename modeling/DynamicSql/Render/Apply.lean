/-
Applying nodes to a context.

Every node tells whether it was handled: text and loops always are, a
binding never is, and a chain or a choice when one of its branches was
taken.

# Failure and what was entered

An action that fails keeps the context as it was when it failed, so that
what was entered on the way is left in order: scopes, iterations, and the
marks of a choice. `bracket` is the one place where this is done.

# The marks of a choice

A case that is taken leaves a mark, and another one if it ends the choice.
A later case sees from the marks that it is run without asking. The marks
are those of the innermost choice, but a choice does not clear them when it
begins: within a case that is run without asking, an inner choice finds the
mark of the outer one and runs all its cases.
-/
import DynamicSql.Evaluator
import DynamicSql.Pattern.Filter
import DynamicSql.Render.Context
import DynamicSql.Render.Error
import DynamicSql.Template.Node

namespace DynamicSql

/-- What stays the same during a render. -/
structure Setting where
  evaluator : Evaluator
  /-- What stands in the text for the parameter of each number, counted in
  the order in which they are collected. -/
  marker : Nat → String
  foreachNullable : Bool
  filter : Option InjectionFilter
  /-- The values of parameters are collected together with them. -/
  collectsValues : Bool

/-- An action on a context, which may fail. The context is there after a
failure too. -/
abbrev Render (α : Type) := ExceptT RenderError (StateM Context) α

namespace Render

-- ============================================================== actions

/-- Changes the context. -/
def update (f : Context → Context) : Render Unit := modify f

/-- Does something between a change of the context and another one, which
sees the context from before the first. -/
def bracket {α : Type} (enter : Context → Context) (leave : Context → Context → Context)
    (action : Render α) : Render α :=
  ExceptT.mk fun before =>
    let (result, after) := action.run (enter before)
    (result, leave before after)

/-- Hands an expression to an evaluator of some kind of answer. -/
def ask {α : Type} (text : String) (answer : Variables → Except EvalError α)
    (blame : EvalError → RenderError) : Render α := do
  update fun ctx => { ctx with asked := ctx.asked ++ [text] }
  let ctx ← get
  match answer ctx.vars with
  | .ok a => return a
  | .error e => throw (blame e)

/-- The value of an expression of an element. -/
def value (s : Setting) (tag text : String) : Render Value :=
  ask text (s.evaluator text) (.expression tag text)

/-- Whether a test of an element holds. -/
def holds (s : Setting) (tag text : String) : Render Bool :=
  ask text (s.evaluator.condition text) (.expression tag text)

/-- How a loop speaks of a failure of its collection. -/
def blameCollection (text : String) : EvalError → RenderError
  | .nullIterable => .nullCollection text
  | .notIterable kind => .notIterable text kind
  | e => .expression "foreach" text e

/-- The elements of the collection of a loop. -/
def elements (s : Setting) (text : String) (nullable : Bool) : Render (List Element) := do
  let found ← ask text (s.evaluator.collection nullable text) (blameCollection text)
  return found.getD []

-- ================================================================= text

/-- Collects a parameter. A failure is reported with the expression as it
stands in the template. -/
def collect (s : Setting) (mapping : Parameter.Mapping) : Render Unit := do
  let ctx ← get
  let renamed := Context.uniquify ctx.frames mapping
  if s.collectsValues then
    let v ← ask renamed.source.text (s.evaluator renamed.source.text)
      (.expression "text" mapping.source.text)
    update fun ctx => { ctx with values := ctx.values ++ [v] }
  update fun ctx => { ctx with mappings := ctx.mappings ++ [renamed] }

/-- The text of a piece. -/
def piece (s : Setting) : Template.Piece → Render String
  | .literal text => return text
  | .interpolation expression => do
    let v ← value s "text" expression
    match s.filter with
    | none => return v.render
    | some filter =>
      if filter.accepts v.render then return v.render
      else throw (.injectionRejected expression filter.pattern)
  | .parameter mapping => do
    let ctx ← get
    collect s mapping
    return s.marker ctx.mappings.length

/-- The text of pieces, one after the other. -/
def pieces (s : Setting) : List Template.Piece → Render String
  | [] => return ""
  | p :: rest => do
    let text ← piece s p
    let others ← pieces s rest
    return text ++ others

/-- Writes a text. -/
def append (text : String) : Render Unit := update fun ctx => ctx.append text

-- ================================================================ loops

/-- Runs the body of a loop for one element, and tells whether it wrote text
that is not blank. The variables are the index, then the item. -/
def iteration (head : Template.LoopHead) (separator : Option String) (key item : Value)
    (body : Render Unit) : Render Bool :=
  bracket (fun ctx => ctx.enterIteration head.item head.index separator)
    (fun _ after => after.leaveIteration) do
    update fun ctx =>
      let unique := ctx.iterations - 1
      (ctx.putLoopVariable unique head.index key).putLoopVariable unique head.item item
    body
    let ctx ← get
    return ctx.hasApplied

/-- The key and the value that an element gives to the variables of a loop.
The key of an item is its position. -/
def keyAndItem (position : Nat) : Element → Value × Value
  | .item v => (Value.ofNat position, v)
  | .entry key v => (key, v)

/-- Runs the body of a loop for elements from a position on. As long as
nothing has been written, no separator is owed. -/
def iterations (head : Template.LoopHead) (body : Render Unit) :
    (wrote : Bool) → (position : Nat) → List Element → Render Unit
  | _, _, [] => return ()
  | wrote, position, e :: rest => do
    let (key, item) := keyAndItem position e
    let separator := if wrote then head.separator else none
    let applied ← iteration head separator key item body
    iterations head body (wrote || applied) (position + 1) rest

/-- Writes an optional text. -/
def appendOption : Option String → Render Unit
  | none => return ()
  | some text => append text

/-- Runs a loop. Without elements it writes nothing at all. -/
def loop (s : Setting) (head : Template.LoopHead) (body : Render Unit) : Render Unit := do
  let found ← elements s head.collection (head.nullable.getD s.foreachNullable)
  if found.isEmpty then return ()
  else
    appendOption head.opening
    iterations head body false 0 found
    appendOption head.closing

-- ============================================================== branches

/-- Does something in a scope of its own, or in the one that is there. -/
def inScope (own : Bool) (action : Render Unit) : Render Unit :=
  if own then bracket Context.pushScope (fun _ after => after.popScope) action
  else action

/-- Takes a branch if its test holds, and otherwise does something else. -/
def branch (s : Setting) (tag test : String) (body : Render Unit) (otherwise : Render Bool) :
    Render Bool := do
  let taken ← holds s tag test
  if taken then
    body
    return true
  else otherwise

/-- Runs a body and counts as handled. -/
def handledBy (body : Render Unit) : Render Bool := do
  body
  return true

/-- Takes a case of a choice: without asking if one before it was taken and
did not end the choice, else if its test holds. -/
def case (s : Setting) (test : String) (breaks : Bool) (body : Render Unit) : Render Bool := do
  let ctx ← get
  if ctx.matched && !ctx.broke then handledBy body
  else
    let taken ← holds s "when" test
    if taken then
      body
      update fun ctx => { ctx with matched := true, broke := breaks }
      return true
    else return false

/-- Gives the marks of a choice back to the choice around it. -/
def restoreMarks (before after : Context) : Context :=
  { after with matched := before.matched, broke := before.broke }

/-- Runs a choice by running its cases, and what is left for when none of
them is taken. -/
def choice (cases : Render Bool) (otherwise : Option (Render Unit)) : Render Bool :=
  bracket id restoreMarks do
    let handled ← cases
    let ctx ← get
    if ctx.matched then return handled
    else
      match otherwise with
      | some body => handledBy body
      | none => return handled

/-- Runs the cases after the first unless it ended the choice. -/
def andThenCases (first rest : Render Bool) : Render Bool := do
  let handled ← first
  let ctx ← get
  if ctx.matched && ctx.broke then return handled
  else
    let later ← rest
    return handled || later

end Render

-- ================================================================ nodes

namespace Template

open Render

mutual

/-- Applies a node, and tells whether it was handled. -/
def Node.apply (s : Setting) : Node → Render Bool
  | .text content => do
    append content
    return true
  | .placeholders t => do
    let text ← pieces s t.pieces
    append text
    return true
  | .bind b => do
    let v ← value s "bind" b.value
    update fun ctx => ctx.put b.name v
    return false
  | .conditional first others otherwise =>
    let last : Render Bool := match otherwise with
      | some body => handledBy (body.apply s)
      | none => return false
    first.apply s (Branch.applyAll s last others)
  | .choose cases otherwise _ =>
    choice (Case.applyAll s cases)
      (match otherwise with
        | some body => some (body.apply s)
        | none => none)
  | .foreach head body => handledBy (loop s head (discard (body.apply s)))
  | .sequence children => do
    Node.applyAll s children
    return true

/-- Applies nodes one after the other. -/
def Node.applyAll (s : Setting) : List Node → Render Unit
  | [] => return ()
  | node :: rest => do
    discard (node.apply s)
    Node.applyAll s rest

/-- Applies the body of a branch. -/
def Body.apply (s : Setting) : Body → Render Unit
  | ⟨ownScope, node⟩ => inScope ownScope (discard (node.apply s))

/-- Applies a branch, or what comes after it. -/
def Branch.apply (s : Setting) (next : Render Bool) : Branch → Render Bool
  | ⟨tag, test, body, _⟩ => branch s tag.name test (body.apply s) next

/-- Applies the first of several branches whose test holds, or what comes
after them. -/
def Branch.applyAll (s : Setting) (next : Render Bool) : List Branch → Render Bool
  | [] => next
  | first :: rest => first.apply s (Branch.applyAll s next rest)

/-- Applies the cases of a choice. -/
def Case.applyAll (s : Setting) : List Case → Render Bool
  | [] => return false
  | ⟨test, breaks, body, _⟩ :: rest =>
    andThenCases (case s test breaks (body.apply s)) (Case.applyAll s rest)

end

end Template

end DynamicSql
