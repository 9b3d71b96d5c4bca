/-
Building a template from a tree.

Siblings are built from left to right. Text is cut at its placeholders, and
texts that follow each other become one. Elements are known by their names.

# Chains

An `if` opens a chain, which stays open while `else-if`s and at last an
`else` extend it. Any other sibling closes it, save blank text, which is as
good as absent.

# Which complaint comes first

The first sibling with something wrong decides. Of one element, its required
attributes are looked at before its boolean ones, both before its content,
and its content before its place: an `else` that follows nothing is only
noticed when all inside it is well.
-/
import DynamicSql.Options
import DynamicSql.Placeholder
import DynamicSql.Template.Error
import DynamicSql.Template.Node
import DynamicSql.Template.Tree

namespace DynamicSql.Template

-- ========================================================= runs of text

/-- The piece that a segment becomes. The content of a parameter is read
here, once and for all. -/
def Piece.ofSegment (span : Option Span) : Segment → Except BuildError Piece
  | .literal text => .ok (.literal text)
  | .placeholder .interpolation content => .ok (.interpolation content)
  | .placeholder .parameter content =>
    match Parameter.Mapping.read content with
    | .ok mapping => .ok (.parameter mapping)
    | .error error => .error (.invalidParameter content error span)

/-- The text of a literal segment. -/
def literalText : Segment → String
  | .literal text => text
  | .placeholder _ _ => ""

/-- True of a segment that is a placeholder. -/
def isPlaceholder : Segment → Bool
  | .literal _ => false
  | .placeholder _ _ => true

/-- The node that a run of text becomes. -/
def Node.ofText (text : String) (span : Option Span) : Except BuildError Node :=
  let segments := Segment.split text
  if segments.any isPlaceholder then do
    let pieces ← segments.mapM (Piece.ofSegment span)
    return .placeholders ⟨pieces, span⟩
  else .ok (.text (String.join (segments.map literalText)))

/-- The text of a run as it is used: as written, or with each run of blanks
as one space. -/
def usedText (options : Options) (raw : String) : String :=
  if options.preserveWhitespace then raw else Text.collapse raw

/-- What stands between two runs that become one. -/
def joiner (options : Options) : String :=
  if options.preserveWhitespace then "" else " "

/-- Appends a piece; literal text goes on where literal text ended. -/
def pushPiece (pieces : List Piece) (piece : Piece) : List Piece :=
  match pieces.getLast?, piece with
  | some (.literal before), .literal after =>
    pieces.dropLast ++ [.literal (before ++ after)]
  | _, _ => pieces ++ [piece]

/-- The span from the beginning of one to the end of the other. -/
def joinSpans : Option Span → Option Span → Option Span
  | some first, some second => some ⟨first.start, second.stop⟩
  | some first, none => some first
  | none, second => second

/-- Two texts as one, with a joiner between them, if they are of one class:
literal, with parameters only, or interpolated. -/
def mergeTexts? (joiner : String) : Node → Node → Option Node
  | .text before, .text after => some (.text (before ++ joiner ++ after))
  | .placeholders before, .placeholders after =>
    if before.isInterpolated = after.isInterpolated then
      some (.placeholders ⟨(.literal joiner :: after.pieces).foldl pushPiece before.pieces,
        joinSpans before.span after.span⟩)
    else none
  | _, _ => none

-- ============================================================= siblings

/-- A chain that may still be extended. -/
structure Chain where
  first : Branch
  others : List Branch
  otherwise : Option Body

def Chain.toNode (c : Chain) : Node :=
  .conditional c.first c.others c.otherwise

/-- What has been built of a list of siblings. -/
structure Siblings where
  /-- The nodes, the last one first. -/
  built : List Node
  chain : Option Chain

namespace Siblings

def empty : Siblings := ⟨[], none⟩

/-- Closes the chain. -/
def flush (s : Siblings) : Siblings :=
  match s.chain with
  | some chain => ⟨chain.toNode :: s.built, none⟩
  | none => s

/-- Appends a node. -/
def push (s : Siblings) (node : Node) : Siblings :=
  ⟨node :: s.flush.built, none⟩

/-- The nodes in order. -/
def toList (s : Siblings) : List Node := s.flush.built.reverse

/-- Appends a text, to the one before it if they can be one. -/
def pushText (s : Siblings) (joiner : String) (node : Node) : Siblings :=
  match s.flush.built with
  | [] => s.push node
  | last :: rest =>
    match mergeTexts? joiner last node with
    | some merged => ⟨merged :: rest, none⟩
    | none => s.push node

/-- Appends a run of characters. A blank one is nothing. -/
def pushRun (s : Siblings) (options : Options) (raw : String) (span : Option Span) :
    Except BuildError Siblings :=
  if Text.allBlank raw then .ok s
  else (Node.ofText (usedText options raw) span).map (s.pushText (joiner options))

/-- Opens a chain. -/
def openChain (s : Siblings) (branch : Branch) : Siblings :=
  { s.flush with chain := some ⟨branch, [], none⟩ }

/-- The chain, if it is open and has no `else` yet. -/
def extensible? (s : Siblings) : Option Chain :=
  s.chain.bind fun chain => if chain.otherwise.isNone then some chain else none

/-- Extends the chain by a branch. -/
def extendChain (s : Siblings) (branch : Branch) : Except BuildError Siblings :=
  match s.extensible? with
  | some chain => .ok { s with chain := some { chain with others := chain.others ++ [branch] } }
  | none => .error (.danglingElse "else-if" branch.span)

/-- Ends the chain by an `else`. -/
def endChain (s : Siblings) (body : Body) (span : Option Span) : Except BuildError Siblings :=
  match s.extensible? with
  | some chain => .ok { s with chain := some { chain with otherwise := some body } }
  | none => .error (.danglingElse "else" span)

end Siblings

-- ============================================================= elements

/-- What an element is by its name. -/
inductive ElementKind where
  | bind
  /-- An element that opens a chain. -/
  | branch (tag : BranchTag)
  | elseIf
  | else_
  | choose
  | foreach
  | otherwise
deriving DecidableEq, Repr, Inhabited

def ElementKind.ofName? : String → Option ElementKind
  | "bind" => some .bind
  | "if" => some (.branch .if_)
  | "when" => some (.branch .when_)
  | "else-if" => some .elseIf
  | "else" => some .else_
  | "choose" => some .choose
  | "foreach" => some .foreach
  | "otherwise" => some .otherwise
  | _ => none

/-- What an element within a choice is by its name. -/
inductive ChoiceKind where
  | case
  | otherwise
deriving DecidableEq, Repr, Inhabited

def ChoiceKind.ofName? : String → Option ChoiceKind
  | "when" => some .case
  | "if" => some .case
  | "otherwise" => some .otherwise
  | _ => none

/-- An attribute that an element must have. -/
def requiredAttribute (tag : String) (attributes : Attributes) (span : Option Span)
    (name : String) : Except BuildError String :=
  match attributes.find? name with
  | some value => .ok value
  | none => .error (.missingAttribute tag name span)

/-- A boolean attribute, false if it is absent. -/
def booleanAttribute (tag : String) (attributes : Attributes) (span : Option Span)
    (name : String) : Except BuildError Bool :=
  match attributes.boolean name false with
  | .ok b => .ok b
  | .error value => .error (.invalidBoolean tag name value span)

/-- What a loop says about itself. -/
def LoopHead.read (tag : String) (attributes : Attributes) (span : Option Span) :
    Except BuildError LoopHead := do
  let collection ← requiredAttribute tag attributes span "collection"
  let nullable ←
    if (attributes.find? "nullable").isSome then
      some <$> booleanAttribute tag attributes span "nullable"
    else pure none
  return ⟨collection, nullable, attributes.find? "item", attributes.find? "index",
    attributes.find? "open", attributes.find? "close", attributes.find? "separator", span⟩

/-- What a binding says. -/
def Bind.read (tag : String) (attributes : Attributes) (span : Option Span) :
    Except BuildError Bind := do
  let name ← requiredAttribute tag attributes span "name"
  let value ← requiredAttribute tag attributes span "value"
  return ⟨name, value, span⟩

/-- The content of a choice. -/
structure Choice where
  /-- The last case first. -/
  cases : List Case
  otherwise : Option Body

mutual

/-- Builds siblings after those already built. -/
def buildSiblings (options : Options) (done : Siblings) : List Tree → Except BuildError Siblings
  | [] => .ok done
  | .text raw span :: rest => do
    let done ← done.pushRun options raw span
    buildSiblings options done rest
  | .element name attributes children span :: rest => do
    let done ← match ElementKind.ofName? name with
      | none => .error (.unknownTag name span)
      | some .otherwise => .error (.misplacedOtherwise span)
      | some .bind => do
        let bind ← Bind.read name attributes span
        pure (done.push (.bind bind))
      | some (.branch tag) => do
        let test ← requiredAttribute name attributes span "test"
        let inside ← buildSiblings options .empty children
        pure (done.openChain ⟨tag, test, Body.ofList inside.toList, span⟩)
      | some .elseIf => do
        let test ← requiredAttribute name attributes span "test"
        let inside ← buildSiblings options .empty children
        done.extendChain ⟨.elseIf, test, Body.ofList inside.toList, span⟩
      | some .else_ => do
        let inside ← buildSiblings options .empty children
        done.endChain (Body.ofList inside.toList) span
      | some .choose => do
        let choice ← buildChoice options ⟨[], none⟩ children
        pure (done.push (.choose choice.cases.reverse choice.otherwise span))
      | some .foreach => do
        let head ← LoopHead.read name attributes span
        let inside ← buildSiblings options .empty children
        pure (done.push (.foreach head (Node.ofList inside.toList)))
    buildSiblings options done rest

/-- Builds the cases of a choice after those already built. Only elements
count. -/
def buildChoice (options : Options) (done : Choice) : List Tree → Except BuildError Choice
  | [] => .ok done
  | .text _ _ :: rest => buildChoice options done rest
  | .element name attributes children span :: rest => do
    let done ← match ChoiceKind.ofName? name with
      | none => .error (.invalidChooseChild name span)
      | some .case => do
        let test ← requiredAttribute name attributes span "test"
        let breaks ← booleanAttribute name attributes span "break"
        let inside ← buildSiblings options .empty children
        pure { done with cases := ⟨test, breaks, Body.ofList inside.toList, span⟩ :: done.cases }
      | some .otherwise => do
        if done.otherwise.isSome then .error (.duplicateOtherwise span)
        else
          let inside ← buildSiblings options .empty children
          pure { done with otherwise := some (Body.ofList inside.toList) }
    buildChoice options done rest

end

/-- Builds a list of siblings. -/
def buildChildren (options : Options) (trees : List Tree) : Except BuildError (List Node) :=
  (buildSiblings options .empty trees).map Siblings.toList

end DynamicSql.Template
