/-
The values that expressions compute with, that variables are bound to and
that parameters carry.

A template does not declare types, so a value says at run time what it is.
Maps keep the order in which their entries came: it is the order in which
they are written and in which a loop walks over them.
-/
import DynamicSql.Bindings
import DynamicSql.Number.Whole

namespace DynamicSql

inductive Value where
  | null
  | bool (b : Bool)
  | int (i : Int64)
  | float (x : Float)
  | string (s : String)
  | list (items : List Value)
  /-- Entries in the order in which they came, each key once. -/
  | map (entries : List (String × Value))
deriving Inhabited

/-- What kind of thing a value is, as error messages name it. -/
inductive Kind where
  | null
  | boolean
  | integer
  | float
  | string
  | list
  | map
deriving DecidableEq, Repr, Inhabited

def Kind.name : Kind → String
  | .null => "null"
  | .boolean => "boolean"
  | .integer => "integer"
  | .float => "float"
  | .string => "string"
  | .list => "list"
  | .map => "map"

namespace Value

def kind : Value → Kind
  | .null => .null
  | .bool _ => .boolean
  | .int _ => .integer
  | .float _ => .float
  | .string _ => .string
  | .list _ => .list
  | .map _ => .map

def isNull : Value → Bool
  | .null => true
  | _ => false

/-- How a value counts as a condition: a boolean as itself, a number unless
it is zero, null not, and all else does, empty texts and lists included. -/
def isTruthy : Value → Bool
  | .null => false
  | .bool b => b
  | .int i => i.toInt != 0
  | .float x => x != 0.0
  | .string _ => true
  | .list _ => true
  | .map _ => true

/-- The text that a string value holds. -/
def string? : Value → Option String
  | .string s => some s
  | _ => none

/-- A count as a value: an integer if 64 bits hold it, else the nearest
float. -/
def ofNat (n : Nat) : Value :=
  match Whole.ofNat n with
  | .inl i => .int i
  | .inr x => .float x

/-- A value that may be missing; null stands for nothing. -/
def ofOption (v : Option Value) : Value :=
  v.getD .null

end Value

/-- The named values that a render starts from. -/
abbrev Arguments := Bindings Value

/-- The named values, if the value is a map. -/
def Value.arguments? : Value → Option Arguments
  | .map entries => some entries
  | _ => none

/-- What an expression sees of the variables: each name and what it is
bound to. -/
abbrev Variables := String → Option Value

end DynamicSql
