/-
Evaluators: what turns the text of an expression into a value.

Rendering never looks into expressions. It hands every text to an evaluator
together with the variables in sight, so the language of expressions can be
exchanged.

# What is assumed of an evaluator

Three things are asked of a text: its value, whether it holds, and which
elements a loop over it visits (`Evaluator.Methods`). An evaluator has to give
values only, and then the other two answers derive from them. One that gives
all three must give these same ones (`Evaluator.Methods.Derived`). With this
assumption an evaluator is known by its values (`Evaluator.Methods.derived_iff`),
and they are all that an `Evaluator` is here. So what is said of every evaluator
is said of all that keep to the assumption, and of no others.
-/
import DynamicSql.Expr.Eval

namespace DynamicSql

/-- Gives a text its value among variables. What else is asked of the text
derives from that. -/
abbrev Evaluator := String → Variables → Except EvalError Value

/-- An element that a loop visits. -/
inductive Element where
  /-- An item of a list; its key is its position. -/
  | item (value : Value)
  /-- An entry of a map. -/
  | entry (key value : Value)

namespace Evaluator

/-- The evaluator of the language of this library. -/
def standard : Evaluator := Expr.evalText

/-- The value as a condition. -/
def condition (evaluator : Evaluator) (text : String) (vars : Variables) :
    Except EvalError Bool :=
  (evaluator text vars).map Value.isTruthy

/-- The elements of a value: those of a list, or the entries of a map in
their order. Null has none where it is allowed, and no other value has. -/
def elements (nullable : Bool) : Value → Except EvalError (Option (List Element))
  | .null => if nullable then .ok none else .error .nullIterable
  | .list items => .ok (some (items.map .item))
  | .map entries => .ok (some (entries.map fun (key, value) => .entry (.string key) value))
  | other => .error (.notIterable other.kind)

/-- The value as a collection. -/
def collection (evaluator : Evaluator) (nullable : Bool) (text : String) (vars : Variables) :
    Except EvalError (Option (List Element)) := do
  let value ← evaluator text vars
  elements nullable value

-- ============================================================ derivation

/-- All that is asked of a text. -/
structure Methods where
  value : String → Variables → Except EvalError Value
  condition : String → Variables → Except EvalError Bool
  collection : Bool → String → Variables → Except EvalError (Option (List Element))

namespace Methods

/-- Conditions and collections derive from values: a text holds if its value is
true, and what is visited are the elements of the value. -/
structure Derived (m : Methods) : Prop where
  condition : ∀ text vars, m.condition text vars = (m.value text vars).map Value.isTruthy
  collection : ∀ nullable text vars,
    m.collection nullable text vars = (m.value text vars).bind (elements nullable)

/-- The methods of an evaluator. -/
def of (evaluator : Evaluator) : Methods :=
  ⟨evaluator, evaluator.condition, evaluator.collection⟩

theorem derived_of (evaluator : Evaluator) : (of evaluator).Derived :=
  ⟨fun _ _ => rfl, fun _ _ _ => rfl⟩

/-- Derived methods are those of an evaluator, which is their values. -/
theorem derived_iff {m : Methods} : m.Derived ↔ m = of m.value := by
  constructor
  · rintro ⟨hcondition, hcollection⟩
    obtain ⟨value, condition, collection⟩ := m
    obtain rfl : condition = Evaluator.condition value :=
      funext fun text => funext fun vars => hcondition text vars
    obtain rfl : collection = Evaluator.collection value :=
      funext fun nullable => funext fun text => funext fun vars => hcollection nullable text vars
    rfl
  · intro h
    rw [h]
    exact derived_of m.value

end Methods

end Evaluator

end DynamicSql
