/-
Expressions: what is written in tests, bindings, collections and
placeholders.

The language has literals, variables, paths into lists and maps, calls of a
few methods, and the usual operators. Binary operators stand on six levels,
from `or`, which binds least, to multiplication.
-/
import DynamicSql.Value.Basic

namespace DynamicSql

inductive UnaryOp where
  | not
  | neg
deriving DecidableEq, Repr, Inhabited

inductive BinaryOp where
  | or
  | and
  | eq
  | ne
  | lt
  | le
  | gt
  | ge
  | add
  | sub
  | mul
  | div
  | rem
deriving DecidableEq, Repr, Inhabited

namespace BinaryOp

/-- How an operator is named in messages. -/
def symbol : BinaryOp → String
  | .or => "or"
  | .and => "and"
  | .eq => "=="
  | .ne => "!="
  | .lt => "<"
  | .le => "<="
  | .gt => ">"
  | .ge => ">="
  | .add => "+"
  | .sub => "-"
  | .mul => "*"
  | .div => "/"
  | .rem => "%"

/-- The level of an operator; the higher, the tighter it binds. Operators of
one level associate to the left. -/
def level : BinaryOp → Nat
  | .or => 0
  | .and => 1
  | .eq | .ne => 2
  | .lt | .le | .gt | .ge => 3
  | .add | .sub => 4
  | .mul | .div | .rem => 5

end BinaryOp

inductive Expr where
  | literal (value : Value)
  | var (name : String)
  | property (target : Expr) (name : String)
  | index (target : Expr) (key : Expr)
  | call (receiver : Expr) (method : String) (args : List Expr)
  | unary (op : UnaryOp) (operand : Expr)
  | binary (op : BinaryOp) (left right : Expr)
deriving Inhabited

end DynamicSql
