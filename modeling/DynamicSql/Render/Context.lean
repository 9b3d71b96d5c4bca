/-
What a render has done so far: the variables in scope, the text and the
parameters collected, the loops it is in.

# Separators

A loop writes its separator between iterations, but only between those that
write something, and how much an iteration writes is known only when it is
over. So an iteration owes its separator, and the debt is paid when the
first text that is not blank is about to be written: the separators of all
loops that still owe one are written before it, the outermost first.

# Names

Inside loops, a property that begins with a loop variable is recorded under
the name that the variable has in this iteration alone
(`DynamicSql.LoopVariable`). Loops are asked from the innermost to the
outermost, and each of them for its item before its index.
-/
import DynamicSql.LoopVariable
import DynamicSql.Parameter.Mapping
import DynamicSql.Scope

namespace DynamicSql

/-- An iteration of a loop that a render is in. -/
structure LoopFrame where
  /-- What is owed before the first text that is not blank. -/
  separator : Option String
  /-- Text that is not blank has been written in this iteration. -/
  applied : Bool
  item : Option String
  index : Option String
  /-- The number of the iteration; no other one of the render has it. -/
  unique : Nat
deriving DecidableEq, Repr, Inhabited

namespace LoopFrame

/-- What the frame owes: a separator, if it is not empty and nothing was
written yet. -/
def owed (f : LoopFrame) : List String :=
  if f.applied then []
  else f.separator.toList.filter fun s => !s.isEmpty

/-- The names of the loop's variables, in the order in which a property is
held against them. -/
def names (f : LoopFrame) : List String := f.item.toList ++ f.index.toList

/-- The property under the name of this iteration, if it begins with one of
the loop's variables. -/
def rename? (f : LoopFrame) (property : String) : Option String :=
  f.names.findSome? fun name =>
    (LoopVariable.stripName? property name).map fun rest =>
      LoopVariable.uniqueName name f.unique ++ rest

end LoopFrame

structure Context where
  scopes : ScopeTree
  /-- The innermost scope. -/
  current : ScopeId
  /-- What has been written; a space goes between each two. -/
  fragments : List String
  mappings : List Parameter.Mapping
  /-- The values of the parameters, if they are collected at all. -/
  values : List Value
  /-- A case of the enclosing choice has been taken. -/
  matched : Bool
  /-- The case taken ends the choice. -/
  broke : Bool
  /-- The iterations around this point, the innermost first. -/
  frames : List LoopFrame
  /-- How many iterations have begun. -/
  iterations : Nat
  /-- The expressions handed to the evaluator, in order. -/
  asked : List String

namespace Context

/-- The beginning of a render. -/
def start (arguments : Arguments) : Context :=
  ⟨ScopeTree.withArguments arguments, ScopeTree.root, [], [], [], false, false, [], 0, []⟩

-- ============================================================ variables

/-- The variables in sight. -/
def vars (ctx : Context) : Variables := ctx.scopes.view ctx.current

/-- Binds a variable in the innermost scope. -/
def put (ctx : Context) (name : String) (value : Value) : Context :=
  { ctx with scopes := (ctx.scopes.put ctx.current name value).2 }

/-- Enters a scope. -/
def pushScope (ctx : Context) : Context :=
  let (child, scopes) := ctx.scopes.acquire ctx.current
  { ctx with scopes := scopes, current := child }

/-- Leaves the innermost scope; the outermost one is not left. -/
def popScope (ctx : Context) : Context :=
  let (parent, scopes) := ctx.scopes.release ctx.current
  { ctx with scopes := scopes, current := parent.getD ctx.current }

-- ================================================================= text

/-- The separators owed, those of the outermost loop first. -/
def owedSeparators (ctx : Context) : List String :=
  ctx.frames.reverse.flatMap LoopFrame.owed

/-- Nothing is owed any more. -/
def settle (frames : List LoopFrame) : List LoopFrame :=
  frames.map fun f => { f with applied := true }

/-- Writes a text. Blank text pays no debts, and empty text is not
written. -/
def append (ctx : Context) (text : String) : Context :=
  let ctx :=
    if Text.allBlank text then ctx
    else
      { ctx with
        fragments := ctx.fragments ++ ctx.owedSeparators
        frames := settle ctx.frames }
  if text.isEmpty then ctx else { ctx with fragments := ctx.fragments ++ [text] }

/-- All that has been written. -/
def sql (ctx : Context) : String := " ".intercalate ctx.fragments

-- ============================================================ parameters

/-- A property under the names that the loops around give to it. -/
def renamed (frames : List LoopFrame) (property : String) : String :=
  frames.foldl (fun p f => (f.rename? p).getD p) property

/-- A mapping under the names that the loops around give to it; one that
begins with none of their variables stays as it is. -/
def uniquify (frames : List LoopFrame) (mapping : Parameter.Mapping) : Parameter.Mapping :=
  match mapping.property? with
  | some property => { mapping with source := .property (renamed frames property) }
  | none => mapping

-- ================================================================ loops

/-- Enters an iteration of a loop: a scope of its own, and a number that no
other iteration has. -/
def enterIteration (ctx : Context) (item index separator : Option String) : Context :=
  let ctx := ctx.pushScope
  { ctx with
    frames := ⟨separator, false, item, index, ctx.iterations⟩ :: ctx.frames
    iterations := ctx.iterations + 1 }

/-- Leaves the innermost iteration. -/
def leaveIteration (ctx : Context) : Context :=
  { ctx with frames := ctx.frames.tail }.popScope

/-- True if the innermost iteration has written text that is not blank. -/
def hasApplied (ctx : Context) : Bool :=
  match ctx.frames with
  | [] => false
  | f :: _ => f.applied

/-- Binds a loop variable under its name and under the name that it has in
the iteration of the given number. -/
def putLoopVariable (ctx : Context) (unique : Nat) (name : Option String) (value : Value) :
    Context :=
  match name with
  | none => ctx
  | some name => (ctx.put (LoopVariable.uniqueName name unique) value).put name value

end Context

end DynamicSql
