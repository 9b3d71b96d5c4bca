/-
Scripts: templates that are built once and rendered any number of times.

# Static scripts

A script without tags and without substituted text gives the same text with
all arguments. Its text and its mappings are worked out when it is built,
and a render only looks up the values of its parameters.

# Parameters

The parameters of a result are there if the script has parameter
placeholders at all, even if no placeholder was reached. So a caller can
tell a statement without parameters from one that got none this time.
-/
import DynamicSql.Render.Apply
import DynamicSql.Template.Build
import DynamicSql.Xml.Reader

namespace DynamicSql

/-- The result of a render: a text, and the parameters in the order of their
markers in it. -/
structure BoundSql where
  sql : String
  parameters : Option (List Parameter.Bound)

namespace BoundSql

/-- The parameters, none if the script has no placeholders for them. -/
def bound (b : BoundSql) : List Parameter.Bound := b.parameters.getD []

/-- The values of the parameters. -/
def values (b : BoundSql) : List Value := b.bound.map (·.value)

/-- The result as a value. -/
def toValue (b : BoundSql) : Value :=
  let parameters := match b.parameters with
    | none => Value.null
    | some ps => .list (ps.map Parameter.Bound.toValue)
  .map [("sql", .string b.sql), ("parameters", parameters)]

end BoundSql

/-- What a static script gives with all arguments. -/
structure StaticSql where
  sql : String
  mappings : List Parameter.Mapping

structure Script where
  root : Template.Node
  options : Options
  filter : Option InjectionFilter
  /-- The evaluator of renders that do not bring their own. -/
  evaluator : Evaluator
  /-- What is known beforehand, if the script is static. -/
  resolved : Option StaticSql

namespace Script

/-- True of a script with tags or substituted text. -/
def isDynamic (s : Script) : Bool := s.root.isDynamic

/-- True of a script with parameter placeholders. -/
def isPrepared (s : Script) : Bool := s.root.hasParameters

-- ============================================================= building

/-- What stays the same while a root with these options is rendered. One
marker stands for all parameters. -/
def setting (options : Options) (filter : Option InjectionFilter) (evaluator : Evaluator)
    (collectsValues : Bool) : Setting :=
  ⟨evaluator, fun _ => options.parameterMarker, options.foreachNullable, filter,
    collectsValues⟩

/-- The filter that the options ask for. -/
def readFilter (options : Options) : Except BuildError (Option InjectionFilter) :=
  match options.injectionFilter with
  | none => .ok none
  | some text =>
    match InjectionFilter.read? text with
    | some filter => .ok (some filter)
    | none => .error (.invalidInjectionFilter text)

/-- What a root that is not dynamic gives with all arguments. -/
def resolve (s : Setting) (root : Template.Node) : Except BuildError StaticSql :=
  match (root.apply s).run (Context.start []) with
  | (.ok _, ctx) => .ok ⟨ctx.sql, ctx.mappings⟩
  | (.error e, _) => .error (.render e)

/-- Builds a script from the content of a root. -/
def build (options : Options) (content : List Template.Tree) : Except BuildError Script := do
  let filter ← readFilter options
  let nodes ← Template.buildChildren options content
  let root : Template.Node := .sequence nodes
  let resolved ←
    if root.isDynamic then pure none
    else some <$> resolve (setting options filter Evaluator.standard false) root
  return ⟨root, options, filter, Evaluator.standard, resolved⟩

/-- Builds a script from a document. The name of its root does not
matter. -/
def parse (options : Options) (source : String) : Except BuildError Script :=
  match Xml.Document.read source with
  | .error e => .error (.xml e)
  | .ok document => build options (Template.Tree.ofElement document.root).children

/-- The script with another evaluator. -/
def withEvaluator (s : Script) (evaluator : Evaluator) : Script :=
  { s with evaluator := evaluator }

-- ============================================================ rendering

/-- The values of mappings among arguments. -/
def lookUp (evaluator : Evaluator) (arguments : Arguments) :
    List Parameter.Mapping → Except RenderError (List Value)
  | [] => .ok []
  | mapping :: rest =>
    let text := mapping.source.text
    match evaluator text (fun name => Bindings.find? arguments name) with
    | .error e => .error (.expression "text" text e)
    | .ok value => (lookUp evaluator arguments rest).map (value :: ·)

/-- The context after a root has been applied to arguments. -/
def applied (s : Script) (evaluator : Evaluator) (arguments : Arguments) :
    Except RenderError Context :=
  match (s.root.apply (setting s.options s.filter evaluator s.isDynamic)).run
      (Context.start arguments) with
  | (.ok _, ctx) => .ok ctx
  | (.error e, _) => .error e

/-- Text, mappings and values of a render. -/
def parts (s : Script) (evaluator : Evaluator) (arguments : Arguments) :
    Except RenderError (StaticSql × List Value) :=
  match s.resolved with
  | some known => (lookUp evaluator arguments known.mappings).map fun values => (known, values)
  | none => (s.applied evaluator arguments).map fun ctx => (⟨ctx.sql, ctx.mappings⟩, ctx.values)

/-- Renders with an evaluator. There is a result for all of the script, or
an error. -/
def renderWith (s : Script) (evaluator : Evaluator) (arguments : Arguments) :
    Except RenderError BoundSql := do
  let (known, values) ← s.parts evaluator arguments
  let bound := known.mappings.zipWith Parameter.Bound.mk values
  return ⟨known.sql, if s.isPrepared then some bound else none⟩

/-- Renders with the evaluator of the script. -/
def render (s : Script) (arguments : Arguments) : Except RenderError BoundSql :=
  s.renderWith s.evaluator arguments

end Script

end DynamicSql
