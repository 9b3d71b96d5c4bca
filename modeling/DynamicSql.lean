import DynamicSql.Bindings
import DynamicSql.Evaluator
import DynamicSql.Expr.Basic
import DynamicSql.Expr.Cache
import DynamicSql.Expr.Error
import DynamicSql.Expr.Eval
import DynamicSql.Expr.Method
import DynamicSql.Expr.Parser
import DynamicSql.Expr.Token
import DynamicSql.Json.Reader
import DynamicSql.Json.Writer
import DynamicSql.LoopVariable
import DynamicSql.Number.Binary64
import DynamicSql.Number.Digits
import DynamicSql.Number.Layout
import DynamicSql.Number.Shortest
import DynamicSql.Number.Whole
import DynamicSql.Options
import DynamicSql.Parameter.Mapping
import DynamicSql.Parameter.Reader
import DynamicSql.Pattern.Basic
import DynamicSql.Pattern.Bracket
import DynamicSql.Pattern.CaseOrbit
import DynamicSql.Pattern.CharSet
import DynamicSql.Pattern.ClassTable
import DynamicSql.Pattern.Escape
import DynamicSql.Pattern.Filter
import DynamicSql.Pattern.Flags
import DynamicSql.Pattern.Match
import DynamicSql.Pattern.Normal
import DynamicSql.Pattern.Property
import DynamicSql.Pattern.Reader
import DynamicSql.Pattern.Room.Basic
import DynamicSql.Pattern.Room.ByteTree
import DynamicSql.Pattern.Room.Machine
import DynamicSql.Pattern.Room.WordTree
import DynamicSql.Placeholder
import DynamicSql.Proofs.Expr.Acceptance
import DynamicSql.Proofs.Expr.Alike
import DynamicSql.Proofs.Expr.Arithmetic
import DynamicSql.Proofs.Expr.Cache
import DynamicSql.Proofs.Expr.Cutting
import DynamicSql.Proofs.Expr.Grammar
import DynamicSql.Proofs.Expr.IntegerText
import DynamicSql.Proofs.Expr.Mentioned
import DynamicSql.Proofs.Expr.Parentheses
import DynamicSql.Proofs.Expr.Position
import DynamicSql.Proofs.Expr.Printing
import DynamicSql.Proofs.Expr.Reading
import DynamicSql.Proofs.Expr.Renaming
import DynamicSql.Proofs.Expr.Session
import DynamicSql.Proofs.Expr.Spelling
import DynamicSql.Proofs.Expr.Squeezed
import DynamicSql.Proofs.Expr.Strings
import DynamicSql.Proofs.Expr.Surviving
import DynamicSql.Proofs.Expr.Viable
import DynamicSql.Proofs.Expr.Written
import DynamicSql.Proofs.LoopVariable
import DynamicSql.Proofs.Parameter.Bytes
import DynamicSql.Proofs.Parameter.Grammar
import DynamicSql.Proofs.Parameter.Parenthesized
import DynamicSql.Proofs.Parameter.Plain
import DynamicSql.Proofs.Parameter.Printing
import DynamicSql.Proofs.Parameter.Source
import DynamicSql.Proofs.Parameter.Squeezed
import DynamicSql.Proofs.Placeholder.Cutting
import DynamicSql.Proofs.Placeholder.Encoding
import DynamicSql.Proofs.Placeholder.Squeezed
import DynamicSql.Proofs.Render.Asked
import DynamicSql.Proofs.Render.Blind
import DynamicSql.Proofs.Render.Chain
import DynamicSql.Proofs.Render.Changes
import DynamicSql.Proofs.Render.Choice
import DynamicSql.Proofs.Render.Compositional
import DynamicSql.Proofs.Render.Course
import DynamicSql.Proofs.Render.Debts
import DynamicSql.Proofs.Render.Emission
import DynamicSql.Proofs.Render.ExtraScopes
import DynamicSql.Proofs.Render.Filtered
import DynamicSql.Proofs.Render.InStep
import DynamicSql.Proofs.Render.Invariant
import DynamicSql.Proofs.Render.LoopNumbers
import DynamicSql.Proofs.Render.LoopScope
import DynamicSql.Proofs.Render.LoopText
import DynamicSql.Proofs.Render.Marker
import DynamicSql.Proofs.Render.Nesting
import DynamicSql.Proofs.Render.Nodewise
import DynamicSql.Proofs.Render.Outcome
import DynamicSql.Proofs.Render.OutputOnly
import DynamicSql.Proofs.Render.ParameterValues
import DynamicSql.Proofs.Render.SameButText
import DynamicSql.Proofs.Render.ScopeDepth
import DynamicSql.Proofs.Render.Sketch
import DynamicSql.Proofs.Render.Trace
import DynamicSql.Proofs.Scope.Outward
import DynamicSql.Proofs.Scope.Pool
import DynamicSql.Proofs.Scope.Session
import DynamicSql.Proofs.Scope.Stack
import DynamicSql.Proofs.Scope.Unpooled
import DynamicSql.Proofs.Script
import DynamicSql.Proofs.Script.Asked
import DynamicSql.Proofs.Script.Chains
import DynamicSql.Proofs.Script.Choices
import DynamicSql.Proofs.Script.Classified
import DynamicSql.Proofs.Script.Filtered
import DynamicSql.Proofs.Script.InnermostNames
import DynamicSql.Proofs.Script.Iterations
import DynamicSql.Proofs.Script.LoopNames
import DynamicSql.Proofs.Script.LoopValues
import DynamicSql.Proofs.Script.Markers
import DynamicSql.Proofs.Script.Mentioned
import DynamicSql.Proofs.Script.ScopeDepth
import DynamicSql.Proofs.Script.Scopes
import DynamicSql.Proofs.Script.Static
import DynamicSql.Proofs.Script.StaticText
import DynamicSql.Proofs.Script.Tags
import DynamicSql.Proofs.Template.Assembled
import DynamicSql.Proofs.Template.Build
import DynamicSql.Proofs.Template.Built
import DynamicSql.Proofs.Template.Chains
import DynamicSql.Proofs.Template.Classified
import DynamicSql.Proofs.Template.Collapsed
import DynamicSql.Proofs.Template.Contribution
import DynamicSql.Proofs.Template.Elements
import DynamicSql.Proofs.Template.Enclosed
import DynamicSql.Proofs.Template.Nodes
import DynamicSql.Proofs.Template.NormalTexts
import DynamicSql.Proofs.Template.Parts
import DynamicSql.Proofs.Template.PlainRuns
import DynamicSql.Proofs.Template.Read
import DynamicSql.Proofs.Template.Scoped
import DynamicSql.Proofs.Template.Texts
import DynamicSql.Proofs.Template.WellPlaced
import DynamicSql.Proofs.Text.Balance
import DynamicSql.Proofs.Text.Bytes
import DynamicSql.Proofs.Text.Location
import DynamicSql.Proofs.Text.Runs
import DynamicSql.Proofs.Text.Slice
import DynamicSql.Proofs.Text.Squeezed
import DynamicSql.Proofs.Value.Equality
import DynamicSql.Proofs.Xml.BlankText
import DynamicSql.Proofs.Xml.Escaping
import DynamicSql.Proofs.Xml.Layout
import DynamicSql.Proofs.Xml.Roundtrip
import DynamicSql.Proofs.Xml.Spans
import DynamicSql.Proofs.Xml.Tag
import DynamicSql.Proofs.Xml.Writing
import DynamicSql.Render.Apply
import DynamicSql.Render.Context
import DynamicSql.Render.Error
import DynamicSql.Scope
import DynamicSql.Script
import DynamicSql.Template.Build
import DynamicSql.Template.Error
import DynamicSql.Template.Node
import DynamicSql.Template.Tree
import DynamicSql.Text.Blank
import DynamicSql.Text.Case
import DynamicSql.Text.CaseTable
import DynamicSql.Text.Category
import DynamicSql.Text.CategoryTable
import DynamicSql.Text.Letter
import DynamicSql.Text.LetterTable
import DynamicSql.Text.Script
import DynamicSql.Text.ScriptTable
import DynamicSql.Text.Span
import DynamicSql.Text.Utf8
import DynamicSql.Value.Basic
import DynamicSql.Value.Equality
import DynamicSql.Value.Text
import DynamicSql.Xml.Attribute
import DynamicSql.Xml.Entity
import DynamicSql.Xml.Error
import DynamicSql.Xml.Markup
import DynamicSql.Xml.Reader
import DynamicSql.Xml.Tree
