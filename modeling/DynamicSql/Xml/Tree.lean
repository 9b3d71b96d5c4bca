/-
Documents as trees that know where they come from.

A name may have a qualifier before a colon. Elements and attributes are
known by what follows it; the qualifier is kept but means nothing here.
-/
import DynamicSql.Text.Span

namespace DynamicSql.Xml

/-- The parts of a name around its first colon. -/
structure Name where
  qualifier : Option String
  localName : String
deriving DecidableEq, Repr, Inhabited

/-- Splits a name at its first colon. -/
def Name.ofChars (cs : List Char) : Name :=
  match cs.dropWhile (· != ':') with
  | [] => ⟨none, String.ofList cs⟩
  | _ :: rest => ⟨some (String.ofList (cs.takeWhile (· != ':'))), String.ofList rest⟩

structure Attribute where
  name : Name
  /-- The value, its references replaced. -/
  value : String
  nameSpan : Span
  /-- The value as written, with its quotes. -/
  valueSpan : Span
deriving DecidableEq, Repr, Inhabited

/-- What the start tag of an element tells. -/
structure Tag where
  name : Name
  nameSpan : Span
  attributes : List Attribute
deriving DecidableEq, Repr, Inhabited

mutual

/-- An element, from the first byte of its start tag to the last of its end
tag. -/
structure Element where
  tag : Tag
  children : List Node
  span : Span

inductive Node where
  | element (e : Element)
  /-- Text with its references replaced. -/
  | text (content : String) (span : Span)
  /-- The content of a CDATA section, as written. -/
  | cdata (content : String) (span : Span)

end

structure Document where
  root : Element
  span : Span

namespace Node

def span : Node → Span
  | .element e => e.span
  | .text _ span => span
  | .cdata _ span => span

def element? : Node → Option Element
  | .element e => some e
  | _ => none

/-- The characters of text and CDATA. -/
def characters : Node → String
  | .element _ => ""
  | .text content _ => content
  | .cdata content _ => content

end Node

namespace Element

/-- The value of the first attribute with a local name. -/
def attribute? (e : Element) (name : String) : Option String :=
  (e.tag.attributes.find? fun a => a.name.localName == name).map Attribute.value

def childElements (e : Element) : List Element :=
  e.children.filterMap Node.element?

/-- The text and CDATA directly inside the element, put together. -/
def textContent (e : Element) : String :=
  String.join (e.children.map Node.characters)

def isEmpty (e : Element) : Bool := e.children.isEmpty

end Element

end DynamicSql.Xml
