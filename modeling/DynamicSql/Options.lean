/-
What may be chosen about a script before it is built.
-/
import DynamicSql.Value.Basic

namespace DynamicSql

structure Options where
  /-- A loop over null visits nothing, unless the loop itself says
  otherwise; else it is an error. -/
  foreachNullable : Bool
  /-- What stands in the text for each parameter. -/
  parameterMarker : String
  /-- A pattern that every substituted text must match as a whole. -/
  injectionFilter : Option String
  /-- Literal text is kept as it is written; else each run of blanks
  becomes one space. -/
  preserveWhitespace : Bool
deriving DecidableEq, Repr, Inhabited

namespace Options

def standard : Options := ⟨false, "?", none, false⟩

def withInjectionFilter (o : Options) (pattern : String) : Options :=
  { o with injectionFilter := some pattern }

def withParameterMarker (o : Options) (marker : String) : Options :=
  { o with parameterMarker := marker }

/-- The options as a value; a filter that is not there is left out. -/
def toValue (o : Options) : Value :=
  .map ([("foreach_nullable", .bool o.foreachNullable),
      ("parameter_marker", .string o.parameterMarker)]
    ++ o.injectionFilter.toList.map (fun pattern => ("injection_filter", .string pattern))
    ++ [("preserve_whitespace", .bool o.preserveWhitespace)])

/-- A boolean field; one that is absent leaves things as they are. -/
def boolField? (entries : Bindings Value) (name : String) (absent : Bool) : Option Bool :=
  match entries.find? name with
  | none => some absent
  | some (.bool b) => some b
  | some _ => none

/-- The options that named fields stand for. Fields that are absent have
their standard values and unknown ones are passed over, but a known field
must be of its type. Null is a filter that is not there, and nothing
else. -/
def ofFields? (entries : Bindings Value) : Option Options := do
  let nullable ← boolField? entries "foreach_nullable" standard.foreachNullable
  let marker ← match entries.find? "parameter_marker" with
    | none => some standard.parameterMarker
    | some v => v.string?
  let filter ← match entries.find? "injection_filter" with
    | none => some none
    | some .null => some none
    | some v => v.string?.map some
  let preserve ← boolField? entries "preserve_whitespace" standard.preserveWhitespace
  return ⟨nullable, marker, filter, preserve⟩

/-- The fields in their order. -/
def fieldNames : List String :=
  ["foreach_nullable", "parameter_marker", "injection_filter", "preserve_whitespace"]

/-- The options that a value stands for: a map of fields, or a list of them
in their order, of which the last ones may be absent. -/
def ofValue? : Value → Option Options
  | .map entries => ofFields? entries
  | .list items =>
    if items.length ≤ fieldNames.length then ofFields? (fieldNames.zip items) else none
  | _ => none

end Options

end DynamicSql
