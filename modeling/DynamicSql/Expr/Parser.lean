/-
From tokens to expressions.

The grammar, from the loosest level to the tightest:

    or         := and (("or" | "||") and)*
    and        := equality (("and" | "&&") equality)*
    equality   := relational (("==" | "!=" | "eq" | "neq") relational)*
    relational := additive (("<" | "<=" | ">" | ">=" | "lt" | "lte" | "gt" | "gte") additive)*
    additive   := term (("+" | "-") term)*
    term       := unary (("*" | "/" | "%") unary)*
    unary      := ("!" | "not" | "-") unary | postfix
    postfix    := primary ("." name ("(" arguments ")")? | "[" or "]")*
    primary    := literal | name | "(" or ")"

# A machine

Expressions are put together by a machine that takes one token at a time.
It holds what is begun and not yet complete: brackets that are open,
operators that wait for their right operand. The innermost comes first. A
phase says what the next token may be. When an operator or a closing
bracket arrives, everything begun that binds tighter is completed first.

The machine never looks ahead and never goes back, so a token that it
refuses is the first one with which no expression goes on: the tokens
before it begin an expression, and with it they do not.

# Levels and frames

A grammar like this is often read by descent, with one function a level: it
has a part read by the function of the next tighter level, and goes on as long
as an operator of its own level follows. The machine goes through the same
steps. Its frames are the calls that are under way and have read something:

- `binary op left` is a call of the function of the level of `op`, which has
  read `left` and the operator and waits for the part on the right. Calls of
  the levels between two frames have read nothing and leave nothing behind.
- `unary op` is a call for an operand behind the operator.
- `group`, `subscript` and `arguments` are calls that wait for a whole
  expression, each within its own brackets.

An operator behind an operand ends the calls of the tighter levels, which
return what they have, and the call of its own level takes it for the next
turn. That is `collapse` at the level of the operator. What is no operator ends
all calls up to the innermost bracket, which is `collapse 0`, and the call that
waits for this bracket looks whether it is the right one (`onClosing`).
-/
import DynamicSql.Expr.Token

namespace DynamicSql

/-- The binary operator that a token names where an operator may stand. The
words among these tokens are plain names everywhere else. -/
def BinaryOp.ofToken? : Token → Option BinaryOp
  | .symbol .or => some .or
  | .symbol .and => some .and
  | .symbol .eq => some .eq
  | .symbol .ne => some .ne
  | .symbol .lt => some .lt
  | .symbol .le => some .le
  | .symbol .gt => some .gt
  | .symbol .ge => some .ge
  | .symbol .plus => some .add
  | .symbol .minus => some .sub
  | .symbol .star => some .mul
  | .symbol .slash => some .div
  | .symbol .percent => some .rem
  | .word "or" => some .or
  | .word "and" => some .and
  | .word "eq" => some .eq
  | .word "neq" => some .ne
  | .word "lt" => some .lt
  | .word "lte" => some .le
  | .word "gt" => some .gt
  | .word "gte" => some .ge
  | _ => none

/-- The unary operator that a token names where an operand may stand. -/
def UnaryOp.ofToken? : Token → Option UnaryOp
  | .symbol .bang => some .not
  | .word "not" => some .not
  | .symbol .minus => some .neg
  | _ => none

namespace Expr

/-- What a word stands for as an operand: three words are literals, every
other one is a variable. -/
def ofWord : String → Expr
  | "null" => .literal .null
  | "true" => .literal (.bool true)
  | "false" => .literal (.bool false)
  | name => .var name

/-- The expression that is a single token. -/
def ofToken? : Token → Option Expr
  | .word name => some (ofWord name)
  | .int i => some (.literal (.int i))
  | .float x => some (.literal (.float x))
  | .string s => some (.literal (.string s))
  | _ => none

-- ============================================================ the machine

/-- Something begun and not yet complete. -/
inductive Frame where
  /-- An open parenthesis around an expression. -/
  | group
  /-- An open bracket after an operand. -/
  | subscript (target : Expr)
  /-- An open list of arguments, and those that are complete. -/
  | arguments (receiver : Expr) (method : String) (done : List Expr)
  | unary (op : UnaryOp)
  | binary (op : BinaryOp) (left : Expr)

/-- What has just been read, and so what may come next. -/
inductive Phase where
  /-- An operand must come. -/
  | operand
  /-- An argument must come, or the end of an empty list of them. -/
  | firstArgument
  /-- A dot was read; the name of a property or a method must come. -/
  | memberName (target : Expr)
  /-- A dot and a name were read. A parenthesis makes it a call. -/
  | member (target : Expr) (name : String)
  /-- An operand is complete. -/
  | complete (operand : Expr)

/-- The machine between two tokens. -/
structure Machine where
  frames : List Frame
  phase : Phase

namespace Machine

/-- Nothing is read yet. -/
def start : Machine := ⟨[], .operand⟩

/-- Completes the operators that bind at least as tightly as a level. A
unary operator binds tighter than all levels. -/
def collapse (level : Nat) : List Frame → Expr → List Frame × Expr
  | .unary op :: frames, e => collapse level frames (.unary op e)
  | .binary op left :: frames, e =>
    if level ≤ op.level then collapse level frames (.binary op left e)
    else (.binary op left :: frames, e)
  | frames, e => (frames, e)

/-- What is missing where the content of the innermost bracket ends. -/
def missingClosing (frames : List Frame) (found : Option Token) : SyntaxFault :=
  match frames with
  | .subscript _ :: _ => .expectedClosing .closeBracket found
  | .arguments _ _ _ :: _ => .expectedArgumentEnd
  | .group :: _ => .expectedClosing .closeParen found
  | _ =>
    match found with
    | some token => .unexpectedToken token
    | none => .unexpectedEnd

/-- A token where an operand may stand. -/
def onOperand (frames : List Frame) (token : Token) : Except SyntaxFault Machine :=
  match UnaryOp.ofToken? token with
  | some op => .ok ⟨.unary op :: frames, .operand⟩
  | none =>
    match ofToken? token with
    | some e => .ok ⟨frames, .complete e⟩
    | none =>
      match token with
      | .openParen => .ok ⟨.group :: frames, .operand⟩
      | _ => .error (.unexpectedToken token)

/-- A token after a complete operand that neither extends it nor is an
operator: it ends the content of the innermost bracket. -/
def onClosing (frames : List Frame) (e : Expr) (token : Token) : Except SyntaxFault Machine :=
  match frames, token with
  | .group :: outer, .closeParen => .ok ⟨outer, .complete e⟩
  | .subscript target :: outer, .closeBracket => .ok ⟨outer, .complete (.index target e)⟩
  | .arguments receiver method done :: outer, .comma =>
    .ok ⟨.arguments receiver method (done ++ [e]) :: outer, .operand⟩
  | .arguments receiver method done :: outer, .closeParen =>
    .ok ⟨outer, .complete (.call receiver method (done ++ [e]))⟩
  | _, _ => .error (missingClosing frames (some token))

/-- A token after a complete operand. -/
def onComplete (frames : List Frame) (e : Expr) (token : Token) : Except SyntaxFault Machine :=
  match token with
  | .dot => .ok ⟨frames, .memberName e⟩
  | .openBracket => .ok ⟨.subscript e :: frames, .operand⟩
  | _ =>
    match BinaryOp.ofToken? token with
    | some op =>
      let (frames, left) := collapse op.level frames e
      .ok ⟨.binary op left :: frames, .operand⟩
    | none =>
      let (frames, e) := collapse 0 frames e
      onClosing frames e token

/-- Takes one token. -/
def step (m : Machine) (token : Token) : Except SyntaxFault Machine :=
  match m.phase with
  | .operand => onOperand m.frames token
  | .firstArgument =>
    match token, m.frames with
    | .closeParen, .arguments receiver method done :: outer =>
      .ok ⟨outer, .complete (.call receiver method done)⟩
    | _, _ => onOperand m.frames token
  | .memberName target =>
    match token with
    | .word name => .ok ⟨m.frames, .member target name⟩
    | _ => .error .missingPropertyName
  | .member target name =>
    match token with
    | .openParen => .ok ⟨.arguments target name [] :: m.frames, .firstArgument⟩
    | _ => onComplete m.frames (.property target name) token
  | .complete e => onComplete m.frames e token

/-- A complete operand at the end of the tokens. -/
def finishComplete (frames : List Frame) (e : Expr) : Except SyntaxFault Expr :=
  match collapse 0 frames e with
  | ([], e) => .ok e
  | (frames, _) => .error (missingClosing frames none)

/-- The end of the tokens. -/
def finish (m : Machine) : Except SyntaxFault Expr :=
  match m.phase with
  | .operand => .error .unexpectedEnd
  | .firstArgument => .error .unexpectedEnd
  | .memberName _ => .error .missingPropertyName
  | .member target name => finishComplete m.frames (.property target name)
  | .complete e => finishComplete m.frames e

/-- Takes tokens one after the other. What is wrong at their end is reported
at the offset `stop`. -/
def run (stop : Nat) (m : Machine) : List Lexeme → Except SyntaxError Expr
  | [] =>
    match m.finish with
    | .ok e => .ok e
    | .error fault => .error ⟨stop, fault⟩
  | lexeme :: rest =>
    match m.step lexeme.token with
    | .ok next => run stop next rest
    | .error fault => .error ⟨lexeme.offset, fault⟩

end Machine

-- ============================================================= whole texts

/-- The expression that tokens make, when the text they are from is `stop`
bytes long. -/
def ofLexemes (stop : Nat) (lexemes : List Lexeme) : Except SyntaxError Expr :=
  if lexemes.isEmpty then .error ⟨0, .emptyExpression⟩
  else Machine.start.run stop lexemes

/-- The expression that a text stands for. -/
def parse (text : String) : Except SyntaxError Expr := do
  let lexemes ← Token.lex text
  ofLexemes text.utf8ByteSize lexemes

end Expr

end DynamicSql
