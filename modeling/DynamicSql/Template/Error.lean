/-
What can be wrong with a template. Building either succeeds completely or
fails with one of these.
-/
import DynamicSql.Parameter.Reader
import DynamicSql.Render.Error
import DynamicSql.Xml.Error

namespace DynamicSql

inductive BuildError where
  /-- The document is no XML. -/
  | xml (error : Xml.Error)
  | unknownTag (tag : String) (span : Option Span)
  /-- An `else-if` or `else` without an open chain directly before it. -/
  | danglingElse (tag : String) (span : Option Span)
  | duplicateOtherwise (span : Option Span)
  | misplacedOtherwise (span : Option Span)
  | invalidChooseChild (tag : String) (span : Option Span)
  | missingAttribute (tag name : String) (span : Option Span)
  | invalidBoolean (tag name value : String) (span : Option Span)
  | invalidParameter (content : String) (error : Parameter.Error) (span : Option Span)
  /-- The injection filter is no pattern. -/
  | invalidInjectionFilter (pattern : String)
  /-- A script without tags could not be resolved when it was built. -/
  | render (error : RenderError)
deriving Inhabited

namespace BuildError

def message : BuildError → String
  | .xml error => error.message
  | .unknownTag tag _ => "Unknown tag <" ++ tag ++ ">"
  | .danglingElse tag _ => "<" ++ tag ++ "> must directly follow an <if> or <else-if>"
  | .duplicateOtherwise _ => "Too many default (otherwise) elements in choose statement"
  | .misplacedOtherwise _ => "<otherwise> is only allowed inside <choose>"
  | .invalidChooseChild tag _ =>
    "Unexpected <" ++ tag ++ "> inside <choose>, expected <when>, <if> or <otherwise>"
  | .missingAttribute tag name _ =>
    "<" ++ tag ++ "> is missing required attribute '" ++ name ++ "'"
  | .invalidBoolean tag name value _ =>
    "Invalid boolean '" ++ value ++ "' for attribute '" ++ name ++ "' on <" ++ tag ++ ">"
  | .invalidParameter content error _ =>
    "Invalid parameter placeholder #\x7b" ++ content ++ "\x7d: " ++ error.message
  | .invalidInjectionFilter pattern => "Invalid injection filter: " ++ pattern
  | .render error => error.message

/-- Where in the template the error is, if that is known. -/
def span? : BuildError → Option Span
  | .xml error => error.span?
  | .unknownTag _ span => span
  | .danglingElse _ span => span
  | .duplicateOtherwise span => span
  | .misplacedOtherwise span => span
  | .invalidChooseChild _ span => span
  | .missingAttribute _ _ span => span
  | .invalidBoolean _ _ _ span => span
  | .invalidParameter _ _ span => span
  | .invalidInjectionFilter _ => none
  | .render _ => none

end BuildError

end DynamicSql
