/-
What can be wrong with a document, and how it is said.

Faults come from four places: the markup as such, the references inside
text and attribute values, the attributes of a tag, and the way in which
elements stand inside each other. Each has its causes; the wording is in one
function per kind, and positions are byte offsets into the document, save
those of attributes, which count from the first byte of their tag.
-/
import DynamicSql.Text.Span

namespace DynamicSql.Xml

-- =============================================================== markup

/-- Markup that cannot be told or does not end. -/
inductive MarkupFault where
  | unknownMarkup
  | unclosedInstruction
  | unclosedComment
  | unclosedDoctype
  | unclosedCData
  | unclosedTag
  /-- A document type without the name of one. -/
  | missingDoctypeName
deriving DecidableEq, Repr, Inhabited

def MarkupFault.message : MarkupFault → String
  | .unknownMarkup => "syntax error: unknown or missed symbol in markup"
  | .unclosedInstruction =>
    "syntax error: processing instruction or xml declaration not closed: " ++
      "`?>` not found before end of input"
  | .unclosedComment => "syntax error: comment not closed: `-->` not found before end of input"
  | .unclosedDoctype => "syntax error: DOCTYPE not closed: `>` not found before end of input"
  | .unclosedCData => "syntax error: CDATA not closed: `]]>` not found before end of input"
  | .unclosedTag => "syntax error: tag not closed: `>` not found before end of input"
  | .missingDoctypeName =>
    "ill-formed document: `<!DOCTYPE>` declaration does not contain a name of a document type"

-- =========================================================== references

/-- What is wrong with a character given by its number. -/
inductive CharacterFault where
  | unexpectedSign
  | invalidDigit
  | noDigits
  /-- The number has more than 32 bits. -/
  | tooLarge
  /-- No character has the number. -/
  | noCharacter (n : Nat)
  | zero
deriving DecidableEq, Repr, Inhabited

def CharacterFault.message : CharacterFault → String
  | .unexpectedSign => "unexpected number sign"
  | .invalidDigit => "invalid digit found in string"
  | .noDigits => "cannot parse integer from empty string"
  | .tooLarge => "number too large to fit in target type"
  | .noCharacter n => "`" ++ toString n ++ "` is not a valid codepoint"
  | .zero => "0x0 character is not permitted in XML"

/-- What is wrong with a reference. Ranges are byte offsets into the text
that holds it. -/
inductive ReferenceFault where
  | unknownName (range : Span) (name : String)
  | unterminated (range : Span)
  | character (fault : CharacterFault)
deriving DecidableEq, Repr, Inhabited

def ReferenceFault.message : ReferenceFault → String
  | .unknownName range name => "at " ++ range.text ++ ": unrecognized entity `" ++ name ++ "`"
  | .unterminated range =>
    "Error while escaping character at range " ++ range.text ++ ": Cannot find ';' after '&'"
  | .character fault => "invalid character reference: " ++ fault.message

-- =========================================================== attributes

inductive AttributeFault where
  | expectedEquals
  | expectedValue
  | unquotedValue
  | unclosedValue (quote : Char)
  /-- The key was given before, at this position. -/
  | duplicate (previous : Nat)
deriving DecidableEq, Repr, Inhabited

def AttributeFault.message : AttributeFault → String
  | .expectedEquals => "attribute key must be directly followed by `=` or space"
  | .expectedValue => "`=` must be followed by an attribute value"
  | .unquotedValue => "attribute value must be enclosed in `\"` or `'`"
  | .unclosedValue quote => "missing closing quote `" ++ quote.toString ++ "` in attribute value"
  | .duplicate previous =>
    "duplicated attribute, previous declaration at position " ++ toString previous

-- ============================================================ documents

inductive Error where
  | markup (fault : MarkupFault) (position : Nat)
  /-- An end tag where no element is open. -/
  | unmatchedEnd (found : String) (position : Nat)
  /-- An end tag that is not the innermost open element's. -/
  | mismatchedEnd (expected found : String) (position : Nat)
  /-- The position counts from the first byte of the tag. -/
  | attribute (fault : AttributeFault) (position : Nat)
  | text (fault : ReferenceFault) (position : Nat)
  | attributeValue (fault : ReferenceFault) (position : Nat)
  /-- The document ended while an element was open. -/
  | unexpectedEnd (name : String) (nameSpan : Span)
  | emptyDocument
  | multipleRoots (span : Span)
deriving DecidableEq, Repr, Inhabited

namespace Error

/-- The wording of an error of the document's syntax, with the position in
the document if it has one. -/
def syntaxMessage (text : String) (position : Option Nat) : String :=
  "XML syntax error: " ++ text ++
    match position with
    | some p => " at byte " ++ toString p
    | none => ""

def message : Error → String
  | .markup fault position => syntaxMessage fault.message (some position)
  | .unmatchedEnd found position =>
    syntaxMessage ("ill-formed document: close tag `</" ++ found ++ ">` does not match any open tag")
      (some position)
  | .mismatchedEnd expected found position =>
    syntaxMessage
      ("ill-formed document: expected `</" ++ expected ++ ">`, but `</" ++ found ++ ">` was found")
      (some position)
  | .attribute fault position =>
    syntaxMessage ("Attribute error: position " ++ toString position ++ ": " ++ fault.message) none
  | .text fault position => syntaxMessage ("Invalid text content: " ++ fault.message) (some position)
  | .attributeValue fault position =>
    syntaxMessage ("Invalid attribute value: " ++ fault.message) (some position)
  | .unexpectedEnd name _ =>
    "Unexpected end of input, expected closing tag </" ++ name ++ ">"
  | .emptyDocument => "Empty XML document: no root element found"
  | .multipleRoots _ => "Invalid XML: multiple root elements"

/-- Where in the document the error is, if that is known. -/
def span? : Error → Option Span
  | .markup _ position => some ⟨position, position⟩
  | .unmatchedEnd _ position => some ⟨position, position⟩
  | .mismatchedEnd _ _ position => some ⟨position, position⟩
  | .attribute _ _ => none
  | .text _ position => some ⟨position, position⟩
  | .attributeValue _ position => some ⟨position, position⟩
  | .unexpectedEnd _ nameSpan => some nameSpan
  | .emptyDocument => none
  | .multipleRoots span => some span

end Error

end DynamicSql.Xml
