/-
From the pieces of a document to its tree.

The pieces are taken one by one. Elements that are open wait on a stack, the
innermost first; an end tag must repeat the whole name of the innermost one,
with its qualifier. What is outside the root is checked and then dropped.

# Blank text

Text of blanks alone is dropped directly after a child element: it is the
indentation of the document and not part of the template. All other text is
kept as it is, also where it is blank.

# What is assumed

Pieces, attributes and references come from a tokenizer, of which is assumed
what is said in `DynamicSql.Xml.Markup`, `DynamicSql.Xml.Attribute` and
`DynamicSql.Xml.Entity`. Besides, it is assumed to pass over a byte order mark
without counting it (`withoutByteOrderMark`), to hold the names of end tags
against those of the tags that are open, space behind an end tag's name aside
(`Assembly.endName`), and to hand on what it has cut before it complains, so
that the first thing wrong in a document is the one that is reported. All else
here, the stack and the root and what becomes of text, is this library's own.
-/
import DynamicSql.Text.Blank
import DynamicSql.Xml.Attribute

namespace DynamicSql.Xml

/-- An element whose end tag has not come. -/
structure OpenElement where
  /-- Its name as written, which the end tag must repeat. -/
  writtenName : List Char
  tag : Tag
  start : Nat
  /-- The last child first. -/
  children : List Node

/-- A document of which some pieces have been taken. -/
structure Assembly where
  /-- The open elements, the innermost first. -/
  stack : List OpenElement
  root : Option Element

namespace Assembly

def start : Assembly := ⟨[], none⟩

/-- Puts a child into the innermost open element; outside of all elements
it is dropped. -/
def addChild (a : Assembly) (child : Node) : Assembly :=
  match a.stack with
  | [] => a
  | top :: outer => { a with stack := { top with children := child :: top.children } :: outer }

/-- Puts a complete element where it belongs. There is one root. -/
def addElement (a : Assembly) (e : Element) : Except Error Assembly :=
  match a.stack with
  | [] =>
    match a.root with
    | some _ => .error (.multipleRoots e.span)
    | none => .ok { a with root := some e }
  | _ :: _ => .ok (a.addChild (.element e))

/-- The name that an end tag gives: its content without the space behind
it. Content that is all space is a name of its own. -/
def endName (content : List Char) : List Char :=
  if content.all Markup.isSpace then content
  else (content.reverse.dropWhile Markup.isSpace).reverse

/-- Closes the innermost element by an end tag with this span. -/
def close (a : Assembly) (content : List Char) (span : Span) : Except Error Assembly :=
  let name := endName content
  match a.stack with
  | [] => .error (.unmatchedEnd (String.ofList name) span.start)
  | top :: outer =>
    if top.writtenName = name then
      addElement { a with stack := outer } ⟨top.tag, top.children.reverse, ⟨top.start, span.stop⟩⟩
    else
      .error (.mismatchedEnd (String.ofList top.writtenName) (String.ofList name) span.start)

/-- True if the innermost open element has an element as its last child. -/
def isAfterElement (a : Assembly) : Bool :=
  match a.stack with
  | [] => false
  | top :: _ =>
    match top.children with
    | .element _ :: _ => true
    | _ => false

/-- Takes one piece. -/
def step (a : Assembly) (piece : Piece) : Except Error Assembly :=
  match piece.markup with
  | .startTag content selfClosing => do
    let tag ← Tag.read (piece.offset + 1) content
    if selfClosing then a.addElement ⟨tag, [], piece.span⟩
    else
      let name := content.takeWhile fun c => !Markup.isSpace c
      return { a with stack := ⟨name, tag, piece.offset, []⟩ :: a.stack }
  | .endTag content => a.close content piece.span
  | .text content =>
    match unescape content with
    | .error fault => .error (.text fault piece.offset)
    | .ok text =>
      if Text.allBlank text && a.isAfterElement then .ok a
      else .ok (a.addChild (.text text piece.span))
  | .cdata content => .ok (a.addChild (.cdata (String.ofList content) piece.span))
  | .skipped _ => .ok a

/-- Takes pieces one after the other. -/
def run (a : Assembly) : List Piece → Except Error Assembly
  | [] => .ok a
  | piece :: rest => do
    let next ← a.step piece
    next.run rest

/-- The root, when all pieces are taken. -/
def finish (a : Assembly) : Except Error Element :=
  match a.stack, a.root with
  | top :: _, _ => .error (.unexpectedEnd top.tag.name.localName top.tag.nameSpan)
  | [], none => .error .emptyDocument
  | [], some root => .ok root

end Assembly

/-- A mark at the beginning of a text that tells how it is stored. It is no
part of the document, and positions do not count it. -/
def withoutByteOrderMark : List Char → List Char
  | [] => []
  | c :: cs => if c = '\uFEFF' then cs else c :: cs

/-- Reads a document. What cannot be cut is reported when all before it has
been taken without complaint. -/
def Document.read (source : String) : Except Error Document := do
  let (pieces, error) := Piece.ofChars 0 (withoutByteOrderMark source.toList)
  let assembly ← Assembly.start.run pieces
  match error with
  | some e => throw e
  | none =>
    let root ← assembly.finish
    return ⟨root, ⟨0, source.utf8ByteSize⟩⟩

end DynamicSql.Xml
