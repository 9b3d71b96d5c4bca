/-
What a parameter placeholder asks for: where its value comes from, and what
is to be said about it to the database.

The value comes from a property path such as `user.id` or from an
expression in parentheses. Both are expressions to the evaluator. They are
told apart because inside a loop only a property is renamed to the
variable of the current iteration.
-/
import DynamicSql.Value.Basic

namespace DynamicSql.Parameter

/-- Where the value of a parameter comes from. -/
inductive Source where
  | property (path : String)
  /-- The text between the parentheses. -/
  | expression (text : String)
deriving DecidableEq, Repr, Inhabited

/-- The expression that gives the value. -/
def Source.text : Source → String
  | .property path => path
  | .expression text => text

/-- A parameter placeholder once read. Options stand in the order in which
they were written, and one name may be given more than once. -/
structure Mapping where
  source : Source
  jdbcType : Option String
  options : List (String × String)
deriving DecidableEq, Repr, Inhabited

namespace Mapping

/-- The property path, if the value is one of a property. -/
def property? (m : Mapping) : Option String :=
  match m.source with
  | .property path => some path
  | .expression _ => none

/-- An option by its name; of two with one name, the first. -/
def option? (m : Mapping) (name : String) : Option String :=
  Bindings.find? m.options name

/-- The mapping as a value: absent parts are left out. -/
def toValue (m : Mapping) : Value :=
  let source : Value := match m.source with
    | .property path => .map [("property", .string path)]
    | .expression text => .map [("expression", .string text)]
  let jdbcType := m.jdbcType.toList.map fun name => ("jdbc_type", Value.string name)
  let options :=
    if m.options.isEmpty then []
    else [("options", Value.list (m.options.map fun (name, value) =>
      .list [.string name, .string value]))]
  .map (("source", source) :: jdbcType ++ options)

end Mapping

/-- A parameter of a rendered text, with the value collected for it. -/
structure Bound where
  mapping : Mapping
  value : Value

/-- The bound parameter as a value. -/
def Bound.toValue (b : Bound) : Value :=
  .map [("mapping", b.mapping.toValue), ("value", b.value)]

end DynamicSql.Parameter
