/-
The names that loop variables take inside parameters.

Parameters outlive the loop that collected them: the caller sees a list of
property texts after the render, when every iteration is over. So an
iteration binds each of its variables twice, once under the name that the
template uses and once under a name of that iteration alone, and a property
that begins with the template's name is recorded under the other.

# What counts as the name at the beginning

The name must be followed by the end of the property, by a dot, a comma or
a colon, or by a blank: otherwise it is only the beginning of a longer
word, or of something other than a path.
-/
import DynamicSql.Text.Blank

namespace DynamicSql.LoopVariable

/-- What the names of single iterations begin with. -/
def marker : String := "__frch_"

/-- The name of a loop variable in the iteration of the given number. -/
def uniqueName (name : String) (iteration : Nat) : String :=
  marker ++ name ++ "_" ++ toString iteration

/-- True of an expression that begins with the name of a single iteration.
Such an expression is not met again once the iteration is over. -/
def isUnique (expression : String) : Bool :=
  marker.toList.isPrefixOf (expression.toList.dropWhile Text.isBlank)

/-- True of what may follow a variable's name at the beginning of a
property. -/
def endsName : List Char → Bool
  | [] => true
  | c :: _ => c == '.' || c == ',' || c == ':' || Text.isBlank c

/-- What follows the name, if the property begins with it. Blanks before
the name are passed over. -/
def stripName? (property name : String) : Option String :=
  let cs := property.toList.dropWhile Text.isBlank
  if name.toList.isPrefixOf cs then
    let rest := cs.drop name.length
    if endsName rest then some (String.ofList rest) else none
  else none

end DynamicSql.LoopVariable
