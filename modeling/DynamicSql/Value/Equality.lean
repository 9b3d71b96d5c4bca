/-
Equality and order of values.

Two relations of equality are in use. The plain one compares like with
like, at any depth; maps are equal when they have the same entries, in
whatever order. The one of expressions puts one rule before it: an integer
equals a float that it converts to. The rule holds for the two operands
themselves and not inside lists or maps.

Order exists between numbers, between strings (by code point) and between
booleans, false first. A number has no order with what is not a number.
-/
import DynamicSql.Value.Basic

namespace DynamicSql.Value

-- ============================================================= equality

mutual

/-- Plain equality. Floats are equal as numbers are: the two zeros are, and
what is not a number equals nothing. -/
def same : Value → Value → Bool
  | .null, .null => true
  | .bool a, .bool b => a == b
  | .int a, .int b => a == b
  | .float a, .float b => a == b
  | .string a, .string b => a == b
  | .list as, .list bs => sameItems as bs
  | .map as, .map bs => as.length == bs.length && sameEntries as bs
  | _, _ => false

/-- Equal item by item. -/
def sameItems : List Value → List Value → Bool
  | [], [] => true
  | a :: as, b :: bs => a.same b && sameItems as bs
  | _, _ => false

/-- Every entry has an equal one under its key among the others. -/
def sameEntries : List (String × Value) → Bindings Value → Bool
  | [], _ => true
  | (key, a) :: rest, others =>
    (match others.find? key with
      | some b => a.same b
      | none => false) && sameEntries rest others

end

/-- Equality as expressions see it. -/
def equals : Value → Value → Bool
  | .int a, .float b => a.toFloat == b
  | .float a, .int b => b.toFloat == a
  | a, b => a.same b

-- ================================================================ order

/-- The order of two floats, if both are numbers. -/
def compareFloats? (a b : Float) : Option Ordering :=
  if a < b then some .lt
  else if a == b then some .eq
  else if b < a then some .gt
  else none

/-- The order of two values, if they have one. -/
def compare? : Value → Value → Option Ordering
  | .int a, .int b => some (Ord.compare a.toInt b.toInt)
  | .int a, .float b => compareFloats? a.toFloat b
  | .float a, .int b => compareFloats? a b.toFloat
  | .float a, .float b => compareFloats? a b
  | .string a, .string b => some (if a < b then .lt else if a = b then .eq else .gt)
  | .bool a, .bool b => some (Ord.compare a b)
  | _, _ => none

end DynamicSql.Value
