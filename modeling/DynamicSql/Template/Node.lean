/-
Built templates.

A node says what rendering does; nothing about it changes while it renders,
so one template can be rendered any number of times. Everything that could
be found out without arguments has been: placeholders are read, chains of
conditions are put together, and each branch knows whether it binds
variables.
-/
import DynamicSql.Parameter.Mapping
import DynamicSql.Text.Span

namespace DynamicSql.Template

-- ================================================================= text

/-- A piece of a text with placeholders. -/
inductive Piece where
  | literal (text : String)
  | interpolation (expression : String)
  | parameter (mapping : Parameter.Mapping)
deriving DecidableEq, Repr, Inhabited

namespace Piece

def isInterpolation : Piece → Bool
  | .interpolation _ => true
  | _ => false

def isParameter : Piece → Bool
  | .parameter _ => true
  | _ => false

end Piece

/-- A text with at least one placeholder. -/
structure PlaceholderText where
  pieces : List Piece
  span : Option Span
deriving DecidableEq, Repr, Inhabited

namespace PlaceholderText

/-- True if values are substituted into the text. -/
def isInterpolated (t : PlaceholderText) : Bool := t.pieces.any Piece.isInterpolation

/-- True if the text collects parameters. -/
def hasParameters (t : PlaceholderText) : Bool := t.pieces.any Piece.isParameter

end PlaceholderText

-- ================================================================ nodes

/-- Evaluates an expression and binds a variable to its value. -/
structure Bind where
  name : String
  value : String
  span : Option Span
deriving DecidableEq, Repr, Inhabited

/-- The element that a branch was written as. -/
inductive BranchTag where
  | if_
  | when_
  | elseIf
deriving DecidableEq, Repr, Inhabited

def BranchTag.name : BranchTag → String
  | .if_ => "if"
  | .when_ => "when"
  | .elseIf => "else-if"

/-- What a loop says about itself, save its body. -/
structure LoopHead where
  collection : String
  /-- Whether null is a collection without elements; if the loop does not
  say, the options do. -/
  nullable : Option Bool
  item : Option String
  index : Option String
  opening : Option String
  closing : Option String
  separator : Option String
  span : Option Span
deriving DecidableEq, Repr, Inhabited

mutual

inductive Node where
  /-- Literal text. -/
  | text (content : String)
  | placeholders (text : PlaceholderText)
  | bind (bind : Bind)
  /-- A chain of branches, of which the first one that holds is taken. -/
  | conditional (first : Branch) (others : List Branch) (otherwise : Option Body)
  | choose (cases : List Case) (otherwise : Option Body) (span : Option Span)
  | foreach (head : LoopHead) (body : Node)
  | sequence (children : List Node)

/-- What a branch does when it is taken. It has a scope of its own if it
binds a variable anywhere inside, so that the variable ends with it. -/
structure Body where
  ownScope : Bool
  node : Node

structure Branch where
  tag : BranchTag
  test : String
  body : Body
  span : Option Span

structure Case where
  test : String
  /-- Later cases are not run after this one. -/
  breaks : Bool
  body : Body
  span : Option Span

end

-- =========================================================== properties

mutual

/-- True if a variable is bound anywhere inside. -/
def Node.containsBind : Node → Bool
  | .text _ => false
  | .placeholders _ => false
  | .bind _ => true
  | .conditional first others otherwise =>
    first.containsBind || Branch.anyContainsBind others ||
      (match otherwise with
        | some body => body.containsBind
        | none => false)
  | .choose cases otherwise _ =>
    Case.anyContainsBind cases ||
      (match otherwise with
        | some body => body.containsBind
        | none => false)
  | .foreach _ body => body.containsBind
  | .sequence children => Node.anyContainsBind children

def Node.anyContainsBind : List Node → Bool
  | [] => false
  | node :: rest => node.containsBind || Node.anyContainsBind rest

def Body.containsBind : Body → Bool
  | ⟨_, node⟩ => node.containsBind

def Branch.containsBind : Branch → Bool
  | ⟨_, _, body, _⟩ => body.containsBind

def Branch.anyContainsBind : List Branch → Bool
  | [] => false
  | branch :: rest => branch.containsBind || Branch.anyContainsBind rest

def Case.anyContainsBind : List Case → Bool
  | [] => false
  | ⟨_, _, body, _⟩ :: rest => body.containsBind || Case.anyContainsBind rest

end

mutual

/-- True if parameters are collected anywhere inside. -/
def Node.hasParameters : Node → Bool
  | .text _ => false
  | .placeholders t => t.hasParameters
  | .bind _ => false
  | .conditional first others otherwise =>
    first.hasParameters || Branch.anyHasParameters others ||
      (match otherwise with
        | some body => body.hasParameters
        | none => false)
  | .choose cases otherwise _ =>
    Case.anyHasParameters cases ||
      (match otherwise with
        | some body => body.hasParameters
        | none => false)
  | .foreach _ body => body.hasParameters
  | .sequence children => Node.anyHasParameters children

def Node.anyHasParameters : List Node → Bool
  | [] => false
  | node :: rest => node.hasParameters || Node.anyHasParameters rest

def Body.hasParameters : Body → Bool
  | ⟨_, node⟩ => node.hasParameters

def Branch.hasParameters : Branch → Bool
  | ⟨_, _, body, _⟩ => body.hasParameters

def Branch.anyHasParameters : List Branch → Bool
  | [] => false
  | branch :: rest => branch.hasParameters || Branch.anyHasParameters rest

def Case.anyHasParameters : List Case → Bool
  | [] => false
  | ⟨_, _, body, _⟩ :: rest => body.hasParameters || Case.anyHasParameters rest

end

mutual

/-- The number of nodes, this one included. Every branch of a chain counts
as a node. -/
def Node.count : Node → Nat
  | .text _ => 1
  | .placeholders _ => 1
  | .bind _ => 1
  | .conditional first others otherwise =>
    first.count + Branch.countAll others +
      (match otherwise with
        | some body => body.count
        | none => 0)
  | .choose cases otherwise _ =>
    1 + Case.countAll cases +
      (match otherwise with
        | some body => body.count
        | none => 0)
  | .foreach _ body => 1 + body.count
  | .sequence children => 1 + Node.countAll children

def Node.countAll : List Node → Nat
  | [] => 0
  | node :: rest => node.count + Node.countAll rest

def Body.count : Body → Nat
  | ⟨_, node⟩ => node.count

def Branch.count : Branch → Nat
  | ⟨_, _, body, _⟩ => 1 + body.count

def Branch.countAll : List Branch → Nat
  | [] => 0
  | branch :: rest => branch.count + Branch.countAll rest

def Case.countAll : List Case → Nat
  | [] => 0
  | ⟨_, _, body, _⟩ :: rest => body.count + Case.countAll rest

end

mutual

/-- True if what the node does depends on arguments other than through its
parameters: it is a tag, or values are substituted into its text. -/
def Node.isDynamic : Node → Bool
  | .text _ => false
  | .placeholders t => t.isInterpolated
  | .bind _ => true
  | .conditional _ _ _ => true
  | .choose _ _ _ => true
  | .foreach _ _ => true
  | .sequence children => Node.anyIsDynamic children

def Node.anyIsDynamic : List Node → Bool
  | [] => false
  | node :: rest => node.isDynamic || Node.anyIsDynamic rest

end

/-- One node as it is, any other number of them as a sequence. -/
def Node.ofList : List Node → Node
  | [node] => node
  | nodes => .sequence nodes

/-- The body that nodes make. -/
def Body.ofList (nodes : List Node) : Body :=
  let node := Node.ofList nodes
  ⟨node.containsBind, node⟩

end DynamicSql.Template
