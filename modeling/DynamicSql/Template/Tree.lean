/-
What a template is built from: a tree of text and named elements.

A template is usually written as an XML document, but nothing beyond names,
attributes and characters matters, so any tree of them will do. Text and
CDATA are the same here: characters.
-/
import DynamicSql.Bindings
import DynamicSql.Text.Blank
import DynamicSql.Xml.Tree

namespace DynamicSql.Template

/-- A node of a template as it was written. Nodes from a source know where
they stood in it. -/
inductive Tree where
  | text (content : String) (span : Option Span)
  | element (name : String) (attributes : List (String × String)) (children : List Tree)
      (span : Option Span)
deriving Inhabited

namespace Tree

/-- The children of an element; characters have none. -/
def children : Tree → List Tree
  | .text _ _ => []
  | .element _ _ children _ => children

mutual

/-- An element of a document. Names are the local ones. -/
def ofElement : Xml.Element → Tree
  | ⟨tag, children, span⟩ =>
    .element tag.name.localName
      (tag.attributes.map fun a => (a.name.localName, a.value))
      (ofNodes children) (some span)

/-- The content of an element of a document. -/
def ofNodes : List Xml.Node → List Tree
  | [] => []
  | .element e :: rest => ofElement e :: ofNodes rest
  | .text content span :: rest => .text content (some span) :: ofNodes rest
  | .cdata content span :: rest => .text content (some span) :: ofNodes rest

end

end Tree

-- =========================================================== attributes

/-- The attributes of an element, each a name and a value. -/
abbrev Attributes := List (String × String)

namespace Attributes

/-- The value of an attribute; of two with one name, the first. -/
def find? (attributes : Attributes) (name : String) : Option String :=
  Bindings.find? attributes name

/-- The boolean value of an attribute, or another one if it is absent.
Blanks around it do not matter; what is neither of the two words is given
back without them. -/
def boolean (attributes : Attributes) (name : String) (absent : Bool) : Except String Bool :=
  match find? attributes name with
  | none => .ok absent
  | some value =>
    match Text.trim value with
    | "true" => .ok true
    | "false" => .ok false
    | other => .error other

end Attributes

end DynamicSql.Template
