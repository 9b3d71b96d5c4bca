/-
Values as text.

There are two texts of a value. The written form names everything, null
included. The rendered form is what `${...}` puts into SQL, and there null
is nothing at all; below the top level, inside a list or a map, null is
written out all the same.
-/
import DynamicSql.Number.Layout
import DynamicSql.Value.Basic

namespace DynamicSql.Value

mutual

/-- The written form: lists in brackets, maps in braces with an equals sign
between key and value, and strings without quotes. -/
def text : Value → String
  | .null => "null"
  | .bool b => if b then "true" else "false"
  | .int i => Whole.text i
  | .float x => Layout.plain.text x
  | .string s => s
  | .list items => "[" ++ itemsText items ++ "]"
  | .map entries => "\x7b" ++ entriesText entries ++ "\x7d"

/-- Items with a comma and a space between each two. -/
def itemsText : List Value → String
  | [] => ""
  | [item] => item.text
  | item :: rest => item.text ++ ", " ++ itemsText rest

def entriesText : List (String × Value) → String
  | [] => ""
  | [(key, value)] => key ++ "=" ++ value.text
  | (key, value) :: rest => key ++ "=" ++ value.text ++ ", " ++ entriesText rest

end

/-- The rendered form: the written one, save that null is the empty text. -/
def render : Value → String
  | .null => ""
  | v => v.text

end DynamicSql.Value
