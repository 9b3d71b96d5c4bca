/-
What can go wrong when an expression is evaluated.

Every failure says what was asked of which kind of value. The wording is in
one place, `EvalError.message`; all else goes by the cause.
-/
import DynamicSql.Expr.Token

namespace DynamicSql

/-- Operands that an operation cannot be applied to. -/
inductive Mismatch where
  /-- The exact result, with this left or only operand, has more than 64
  bits. -/
  | overflow (symbol : String) (operand : Int64)
  | negate (kind : Kind)
  | index (target key : Kind)
  | arity (method : String) (expected given : Nat)
  | compare (left right : Kind)
  | apply (op : BinaryOp) (left right : Kind)
deriving DecidableEq, Inhabited

def Mismatch.message : Mismatch → String
  | .overflow symbol operand =>
    "integer overflow in '" ++ symbol ++ "' with " ++ Whole.text operand
  | .negate kind => "cannot negate " ++ kind.name
  | .index target key => "cannot index " ++ target.name ++ " with " ++ key.name
  | .arity method expected given =>
    method ++ "() takes " ++ toString expected ++ " argument(s), " ++ toString given ++ " given"
  | .compare left right => "cannot compare " ++ left.name ++ " with " ++ right.name
  | .apply op left right =>
    "cannot apply '" ++ op.symbol ++ "' to " ++ left.name ++ " and " ++ right.name

inductive EvalError where
  /-- The text is not an expression. -/
  | malformed (error : SyntaxError)
  /-- Something was read of null. -/
  | nullAccess (property : String)
  /-- A property was read of a value that has none. -/
  | noSuchProperty (property : String) (kind : Kind)
  | indexOutOfBounds (index : Int64) (length : Nat)
  /-- The receiver does not know the method. -/
  | unknownMethod (method : String) (kind : Kind)
  | mismatch (mismatch : Mismatch)
  | divisionByZero
  /-- A collection was asked for and there is null. -/
  | nullIterable
  /-- A collection was asked for and there is something else. -/
  | notIterable (kind : Kind)
  /-- A failure in the words of an evaluator from outside. -/
  | other (text : String)
deriving Inhabited

def EvalError.message : EvalError → String
  | .malformed e =>
    "syntax error at position " ++ toString e.position ++ ": " ++ e.fault.message
  | .nullAccess property => "cannot read '" ++ property ++ "' of null"
  | .noSuchProperty property kind => "cannot read '" ++ property ++ "' of " ++ kind.name
  | .indexOutOfBounds index length =>
    "index " ++ Whole.text index ++ " out of bounds for list of length " ++ toString length
  | .unknownMethod method kind => "unknown method '" ++ method ++ "' on " ++ kind.name
  | .mismatch m => "type mismatch: " ++ m.message
  | .divisionByZero => "division by zero"
  | .nullIterable => "value is null"
  | .notIterable kind => kind.name ++ " is not iterable"
  | .other text => text

end DynamicSql
