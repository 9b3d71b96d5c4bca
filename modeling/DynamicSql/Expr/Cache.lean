/-
An evaluator that remembers what it has parsed.

A text is parsed when it is first met and its expression is kept for the
next time. Texts that do not parse are not kept. Nor are texts that begin
with the name of a loop variable in a single iteration: every iteration
brings such texts of its own, and none of them comes back.
-/
import DynamicSql.Evaluator
import DynamicSql.LoopVariable

namespace DynamicSql

/-- The expressions kept, each under its text. -/
structure ExprCache where
  entries : Bindings Expr

namespace ExprCache

def empty : ExprCache := ⟨[]⟩

/-- The number of expressions kept. -/
def size (cache : ExprCache) : Nat := cache.entries.length

/-- The expression of a text, and what is kept afterwards. -/
def compile (cache : ExprCache) (text : String) : Except SyntaxError Expr × ExprCache :=
  if LoopVariable.isUnique text then (Expr.parse text, cache)
  else
    match cache.entries.find? text with
    | some e => (.ok e, cache)
    | none =>
      match Expr.parse text with
      | .ok e => (.ok e, ⟨cache.entries.insert text e⟩)
      | .error error => (.error error, cache)

/-- The value of a text among variables, and what is kept afterwards. -/
def evaluate (cache : ExprCache) (text : String) (vars : Variables) :
    Except EvalError Value × ExprCache :=
  match cache.compile text with
  | (.ok e, after) => (e.eval vars, after)
  | (.error error, after) => (.error (.malformed error), after)

end ExprCache

end DynamicSql
