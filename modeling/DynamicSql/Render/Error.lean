/-
What can go wrong when a script is rendered. A render that fails gives no
text at all.
-/
import DynamicSql.Expr.Error

namespace DynamicSql

inductive RenderError where
  /-- An expression of an element could not be evaluated. -/
  | expression (tag expression : String) (cause : EvalError)
  /-- A loop over null where that is not allowed. -/
  | nullCollection (expression : String)
  /-- A loop over what has no elements. -/
  | notIterable (expression : String) (kind : Kind)
  /-- A substituted text does not match the injection filter. -/
  | injectionRejected (expression pattern : String)
deriving Inhabited

def RenderError.message : RenderError → String
  | .expression tag text cause =>
    "Error evaluating expression '" ++ text ++ "' in <" ++ tag ++ ">: " ++ cause.message
  | .nullCollection text =>
    "The expression '" ++ text ++ "' in <foreach> evaluated to a null value"
  | .notIterable text kind =>
    "The expression '" ++ text ++ "' in <foreach> evaluated to a " ++ kind.name ++
      ", which is not iterable"
  | .injectionRejected text pattern =>
    "Value of $\x7b" ++ text ++ "\x7d does not match the injection filter '" ++ pattern ++ "'"

end DynamicSql
