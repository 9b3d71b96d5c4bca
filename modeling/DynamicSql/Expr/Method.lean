/-
The methods of strings, lists and maps.

A method is found by its name and the kind of its receiver, and only then
are its arguments counted: a method that the receiver does not know is
unknown however it is called. Null knows no method at all, and calling one
on it is reported as reading something of null.
-/
import DynamicSql.Expr.Error
import DynamicSql.Text.Case
import DynamicSql.Value.Equality
import DynamicSql.Value.Text

namespace DynamicSql

/-- True if the characters of `part` stand somewhere among the others, one
after the other. -/
def Text.hasPart (part : List Char) : List Char → Bool
  | [] => part.isEmpty
  | c :: cs => part.isPrefixOf (c :: cs) || Text.hasPart part cs

/-- A method that a receiver knows. -/
inductive Method where
  /-- Takes no argument and gives this. -/
  | plain (result : Value)
  /-- Takes one argument. -/
  | taking (result : Value → Value)

namespace Method

def ofCount (n : Nat) : Method := .plain (.int (Int64.ofNat n))

/-- The methods of strings. What a string is searched for is the rendered
form of the argument, so that null is found in every string. -/
def ofString? (s : String) : String → Option Method
  | "size" | "length" => some (ofCount s.length)
  | "isEmpty" => some (.plain (.bool s.isEmpty))
  | "trim" => some (.plain (.string (Text.trim s)))
  | "toUpperCase" => some (.plain (.string (Text.toUpper s)))
  | "toLowerCase" => some (.plain (.string (Text.toLower s)))
  | "contains" => some (.taking fun a => .bool (Text.hasPart a.render.toList s.toList))
  | "startsWith" => some (.taking fun a => .bool (a.render.toList.isPrefixOf s.toList))
  | "endsWith" => some (.taking fun a => .bool (a.render.toList.isSuffixOf s.toList))
  | _ => none

def ofList? (items : List Value) : String → Option Method
  | "size" | "length" => some (ofCount items.length)
  | "isEmpty" => some (.plain (.bool items.isEmpty))
  | "contains" => some (.taking fun a => .bool (items.any fun item => item.equals a))
  | _ => none

/-- The methods of maps. Only a string can be a key. -/
def ofMap? (entries : Bindings Value) : String → Option Method
  | "size" | "length" => some (ofCount entries.length)
  | "isEmpty" => some (.plain (.bool entries.isEmpty))
  | "contains" | "containsKey" =>
    some (.taking fun a => .bool (a.string?.any fun key => Bindings.contains entries key))
  | _ => none

/-- The method of a name that a value knows. -/
def find? (receiver : Value) (name : String) : Option Method :=
  match receiver with
  | .string s => ofString? s name
  | .list items => ofList? items name
  | .map entries => ofMap? entries name
  | _ => none

/-- Applies a method to its arguments, if their number is right. -/
def apply (name : String) : Method → List Value → Except EvalError Value
  | .plain result, [] => .ok result
  | .taking result, [a] => .ok (result a)
  | .plain _, args => .error (.mismatch (.arity name 0 args.length))
  | .taking _, args => .error (.mismatch (.arity name 1 args.length))

/-- Calls a method of a value. -/
def call (receiver : Value) (name : String) (args : List Value) : Except EvalError Value :=
  if receiver.isNull then .error (.nullAccess (name ++ "()"))
  else
    match find? receiver name with
    | some method => method.apply name args
    | none => .error (.unknownMethod name receiver.kind)

end Method

end DynamicSql
