/-
The meaning of expressions.

Operands are evaluated from left to right, and the first failure is the
failure of the whole. Only `and` and `or` leave their right operand alone
when the left one decides.

# What is not there

A variable that is not bound and a key that a map does not have are null.
Reading anything of null fails, and so does an index outside a list: what is
absent can be tested for, but not looked into.
-/
import DynamicSql.Expr.Method
import DynamicSql.Expr.Parser
import DynamicSql.Number.Binary64

namespace DynamicSql.Expr

-- =========================================================== arithmetic

/-- Arithmetic on integers: exact or refused. The operators that are no
arithmetic have no meaning here. -/
def integerArithmetic (op : BinaryOp) (a b : Int64) : Except EvalError Value :=
  let exact (result : Option Int64) : Except EvalError Value :=
    match result with
    | some i => .ok (.int i)
    | none => .error (.mismatch (.overflow op.symbol a))
  match op with
  | .add => exact (Whole.add? a b)
  | .sub => exact (Whole.sub? a b)
  | .mul => exact (Whole.mul? a b)
  | .div => if b.toInt = 0 then .error .divisionByZero else exact (Whole.div? a b)
  | .rem => if b.toInt = 0 then .error .divisionByZero else exact (Whole.rem? a b)
  | _ => exact none

/-- Arithmetic on floats, which never fails. -/
def floatArithmetic (op : BinaryOp) (a b : Float) : Value :=
  match op with
  | .add => .float (a + b)
  | .sub => .float (a - b)
  | .mul => .float (a * b)
  | .div => .float (a / b)
  | _ => .float (Binary64.rem a b)

/-- Arithmetic on any two values. An integer beside a float counts as a
float. -/
def arithmetic (op : BinaryOp) : Value → Value → Except EvalError Value
  | .int a, .int b => integerArithmetic op a b
  | .int a, .float b => .ok (floatArithmetic op a.toFloat b)
  | .float a, .int b => .ok (floatArithmetic op a b.toFloat)
  | .float a, .float b => .ok (floatArithmetic op a b)
  | a, b => .error (.mismatch (.apply op a.kind b.kind))

/-- A sum: with a string on either side, the written forms of both are put
together. -/
def sum (a b : Value) : Except EvalError Value :=
  if a.string?.isSome || b.string?.isSome then .ok (.string (a.text ++ b.text))
  else arithmetic .add a b

/-- The negative of a number. -/
def negative : Value → Except EvalError Value
  | .int i =>
    match Whole.neg? i with
    | some n => .ok (.int n)
    | none => .error (.mismatch (.overflow "-" i))
  | .float x => .ok (.float (-x))
  | v => .error (.mismatch (.negate v.kind))

-- =========================================================== comparison

/-- Tests the order of two values, which they must have. -/
def ordered (test : Ordering → Bool) (a b : Value) : Except EvalError Value :=
  match a.compare? b with
  | some ordering => .ok (.bool (test ordering))
  | none => .error (.mismatch (.compare a.kind b.kind))

/-- A binary operator between two values. -/
def applyBinary (op : BinaryOp) (a b : Value) : Except EvalError Value :=
  match op with
  | .or => .ok (.bool (a.isTruthy || b.isTruthy))
  | .and => .ok (.bool (a.isTruthy && b.isTruthy))
  | .eq => .ok (.bool (a.equals b))
  | .ne => .ok (.bool (!a.equals b))
  | .lt => ordered Ordering.isLT a b
  | .le => ordered Ordering.isLE a b
  | .gt => ordered Ordering.isGT a b
  | .ge => ordered Ordering.isGE a b
  | .add => sum a b
  | .sub => arithmetic .sub a b
  | .mul => arithmetic .mul a b
  | .div => arithmetic .div a b
  | .rem => arithmetic .rem a b

-- =============================================================== access

/-- Reads a property of a value. -/
def readProperty (target : Value) (name : String) : Except EvalError Value :=
  match target with
  | .map entries => .ok (Value.ofOption (Bindings.find? entries name))
  | .null => .error (.nullAccess name)
  | other => .error (.noSuchProperty name other.kind)

/-- Reads an element of a list by its position, or of a map by its key. -/
def readIndex (target key : Value) : Except EvalError Value :=
  match target, key with
  | .null, key => .error (.nullAccess ("[" ++ key.text ++ "]"))
  | .map entries, .string name => .ok (Value.ofOption (Bindings.find? entries name))
  | .list items, .int i =>
    if i.toInt < 0 then .error (.indexOutOfBounds i items.length)
    else
      match items[i.toInt.toNat]? with
      | some item => .ok item
      | none => .error (.indexOutOfBounds i items.length)
  | target, key => .error (.mismatch (.index target.kind key.kind))

-- =========================================================== evaluation

mutual

/-- The value of an expression. -/
def eval (vars : Variables) : Expr → Except EvalError Value
  | .literal value => .ok value
  | .var name => .ok (Value.ofOption (vars name))
  | .property target name => do
    let target ← eval vars target
    readProperty target name
  | .index target key => do
    let target ← eval vars target
    let key ← eval vars key
    readIndex target key
  | .call receiver method args => do
    let receiver ← eval vars receiver
    let args ← evalAll vars args
    Method.call receiver method args
  | .unary .not operand => do
    let v ← eval vars operand
    return .bool (!v.isTruthy)
  | .unary .neg operand => do
    let v ← eval vars operand
    negative v
  | .binary .and left right => do
    let a ← eval vars left
    if a.isTruthy then
      let b ← eval vars right
      return .bool b.isTruthy
    else return .bool false
  | .binary .or left right => do
    let a ← eval vars left
    if a.isTruthy then return .bool true
    else
      let b ← eval vars right
      return .bool b.isTruthy
  | .binary op left right => do
    let a ← eval vars left
    let b ← eval vars right
    applyBinary op a b

/-- The values of expressions, from left to right. -/
def evalAll (vars : Variables) : List Expr → Except EvalError (List Value)
  | [] => .ok []
  | e :: rest => do
    let v ← eval vars e
    let vs ← evalAll vars rest
    return v :: vs

end

/-- The value of the expression that a text stands for. -/
def evalText (text : String) (vars : Variables) : Except EvalError Value :=
  match parse text with
  | .ok e => e.eval vars
  | .error error => .error (.malformed error)

end DynamicSql.Expr
