/-
The tokens of expressions, and the cutting of a text into them.

Tokens are separated by blanks of ASCII or by nothing. Each takes as many
characters as it can: of two symbols that fit, the longer. A number takes a
point only if a digit follows it, so that `1.` is an integer and a dot, and
a point before a digit begins a number, so that `.5` is one.

# What cannot be cut

A character with which no token begins, a string without its closing quote
and an integer beyond 64 bits end the cutting, at the byte offset where the
character, the string or the integer begins.
-/
import DynamicSql.Expr.Basic
import DynamicSql.Number.Digits
import DynamicSql.Number.Layout
import DynamicSql.Text.Blank
import DynamicSql.Text.Span

namespace DynamicSql

/-- The operators that are written in signs. -/
inductive Symbol where
  | eq
  | ne
  | le
  | ge
  | and
  | or
  | lt
  | gt
  | plus
  | minus
  | star
  | slash
  | percent
  | bang
deriving DecidableEq, Repr, Inhabited

def Symbol.text : Symbol → String
  | .eq => "=="
  | .ne => "!="
  | .le => "<="
  | .ge => ">="
  | .and => "&&"
  | .or => "||"
  | .lt => "<"
  | .gt => ">"
  | .plus => "+"
  | .minus => "-"
  | .star => "*"
  | .slash => "/"
  | .percent => "%"
  | .bang => "!"

/-- A token. Words include those that name operators and literals: what a
word means depends on where it stands. -/
inductive Token where
  | word (name : String)
  | int (i : Int64)
  | float (x : Float)
  | string (s : String)
  | symbol (s : Symbol)
  | openParen
  | closeParen
  | openBracket
  | closeBracket
  | dot
  | comma
deriving Inhabited

/-- How a token is called in messages. -/
def Token.describe : Token → String
  | .word name => "identifier '" ++ name ++ "'"
  | .int i => "number " ++ Whole.text i
  | .float x => "number " ++ Layout.plain.text x
  | .string _ => "string literal"
  | .symbol s => "'" ++ s.text ++ "'"
  | .openParen => "'('"
  | .closeParen => "')'"
  | .openBracket => "'['"
  | .closeBracket => "']'"
  | .dot => "'.'"
  | .comma => "','"

-- ============================================================== faults

/-- What can be wrong with the text of an expression. -/
inductive SyntaxFault where
  | unexpectedCharacter (c : Char)
  | unterminatedString
  | integerOutOfRange (digits : String)
  | emptyExpression
  | unexpectedToken (found : Token)
  | unexpectedEnd
  | missingPropertyName
  /-- An opened bracket is not closed where its content ends. -/
  | expectedClosing (wanted : Token) (found : Option Token)
  | expectedArgumentEnd
deriving Inhabited

def SyntaxFault.message : SyntaxFault → String
  | .unexpectedCharacter c => "unexpected character '" ++ c.toString ++ "'"
  | .unterminatedString => "unterminated string literal"
  | .integerOutOfRange digits => "integer literal '" ++ digits ++ "' out of range"
  | .emptyExpression => "empty expression"
  | .unexpectedToken found => "unexpected " ++ found.describe
  | .unexpectedEnd => "unexpected end of expression"
  | .missingPropertyName => "expected property name after '.'"
  | .expectedClosing wanted (some found) =>
    "expected " ++ wanted.describe ++ ", found " ++ found.describe
  | .expectedClosing wanted none => "expected " ++ wanted.describe ++ ", found end of input"
  | .expectedArgumentEnd => "expected ',' or ')' in argument list"

/-- A fault and the byte offset at which it was seen. -/
structure SyntaxError where
  position : Nat
  fault : SyntaxFault
deriving Inhabited

/-- A token and the byte offset at which it begins. -/
structure Lexeme where
  offset : Nat
  token : Token
deriving Inhabited

namespace Token

-- ========================================================= single tokens

/-- The characters with which a word begins. -/
def isWordStart (c : Char) : Bool :=
  c.isAlpha || c == '_' || c == '$'

/-- The characters of which a word goes on. -/
def isWordChar (c : Char) : Bool :=
  c.isAlphanum || c == '_' || c == '$'

/-- The tokens of one character that begin no other token. -/
def bracket? : Char → Option Token
  | '(' => some .openParen
  | ')' => some .closeParen
  | '[' => some .openBracket
  | ']' => some .closeBracket
  | ',' => some .comma
  | _ => none

/-- The symbol that a character begins, together with the next one if that
makes a symbol, and what follows it. -/
def symbol? (c : Char) (cs : List Char) : Option (Symbol × List Char) :=
  match c, cs with
  | '=', '=' :: rest => some (.eq, rest)
  | '!', '=' :: rest => some (.ne, rest)
  | '<', '=' :: rest => some (.le, rest)
  | '>', '=' :: rest => some (.ge, rest)
  | '&', '&' :: rest => some (.and, rest)
  | '|', '|' :: rest => some (.or, rest)
  | '<', rest => some (.lt, rest)
  | '>', rest => some (.gt, rest)
  | '+', rest => some (.plus, rest)
  | '-', rest => some (.minus, rest)
  | '*', rest => some (.star, rest)
  | '/', rest => some (.slash, rest)
  | '%', rest => some (.percent, rest)
  | '!', rest => some (.bang, rest)
  | _, _ => none

/-- The character that a backslash and this one stand for. -/
def unescape : Char → Char
  | 'n' => '\n'
  | 't' => '\t'
  | c => c

/-- The content of a string up to its closing quote, and what follows the
quote. -/
def stringBody? (quote : Char) : List Char → Option (List Char × List Char)
  | [] => none
  | ['\\'] => none
  | '\\' :: c :: cs =>
    (stringBody? quote cs).map fun (body, rest) => (unescape c :: body, rest)
  | c :: cs =>
    if c = quote then some ([], cs)
    else (stringBody? quote cs).map fun (body, rest) => (c :: body, rest)

/-- A point with a digit after it. -/
def beginsFraction : List Char → Bool
  | '.' :: c :: _ => c.isDigit
  | _ => false

/-- The number that the characters begin with, and what follows it. -/
def number (cs : List Char) : Except SyntaxFault (Token × List Char) :=
  let whole := cs.takeWhile Char.isDigit
  let rest := cs.dropWhile Char.isDigit
  if beginsFraction rest then
    let parts := (rest.drop 1).takeWhile Char.isDigit
    .ok (.float (nearestFloat (digitsValue (whole ++ parts)) (-parts.length)),
      (rest.drop 1).dropWhile Char.isDigit)
  else
    match Whole.ofInt? (digitsValue whole) with
    | some i => .ok (.int i, rest)
    | none => .error (.integerOutOfRange (String.ofList whole))

/-- The token that a character begins, and what follows it. -/
def scan (c : Char) (cs : List Char) : Except SyntaxFault (Token × List Char) :=
  match bracket? c with
  | some t => .ok (t, cs)
  | none =>
    if c = '\'' ∨ c = '"' then
      match stringBody? c cs with
      | some (body, rest) => .ok (.string (String.ofList body), rest)
      | none => .error .unterminatedString
    else if c.isDigit ∨ beginsFraction (c :: cs) then number (c :: cs)
    else if c = '.' then .ok (.dot, cs)
    else if isWordStart c then
      .ok (.word (String.ofList (c :: cs.takeWhile isWordChar)), cs.dropWhile isWordChar)
    else
      match symbol? c cs with
      | some (s, rest) => .ok (.symbol s, rest)
      | none => .error (.unexpectedCharacter c)

-- ===================================================== rests are shorter

theorem length_stringBody? {quote : Char} {cs body rest : List Char}
    (h : stringBody? quote cs = some (body, rest)) : rest.length < cs.length := by
  fun_induction stringBody? quote cs generalizing body rest with
  | case1 => simp at h
  | case2 => simp at h
  | case3 c cs ih =>
    obtain ⟨⟨a, b⟩, hab, he⟩ := Option.map_eq_some_iff.1 h
    have := ih hab
    simp_all
    omega
  | case4 cs => simp_all
  | case5 c cs _ _ _ ih =>
    obtain ⟨⟨a, b⟩, hab, he⟩ := Option.map_eq_some_iff.1 h
    have := ih hab
    simp_all
    omega

theorem length_symbol? {c : Char} {cs rest : List Char} {s : Symbol}
    (h : symbol? c cs = some (s, rest)) : rest.length ≤ cs.length := by
  unfold symbol? at h
  split at h <;> simp_all

/-- A number takes at least one character of those it is read from, if they
begin with a digit or a fraction. -/
theorem length_number {cs rest : List Char} {t : Token}
    (hc : (cs.head?.any Char.isDigit) ∨ beginsFraction cs) (h : number cs = .ok (t, rest)) :
    rest.length < cs.length := by
  have hdrop : ∀ l : List Char, (l.dropWhile Char.isDigit).length ≤ l.length :=
    fun l => (List.dropWhile_suffix Char.isDigit).length_le
  simp only [number] at h
  split at h
  · next hf =>
    simp only [Except.ok.injEq, Prod.mk.injEq] at h
    obtain ⟨-, rfl⟩ := h
    have h₁ := hdrop ((cs.dropWhile Char.isDigit).drop 1)
    have h₂ := hdrop cs
    have h₃ : 0 < (cs.dropWhile Char.isDigit).length := by
      cases hd : cs.dropWhile Char.isDigit with
      | nil => simp [hd, beginsFraction] at hf
      | cons => simp
    simp only [List.length_drop] at h₁
    omega
  · next hf =>
    split at h
    · simp only [Except.ok.injEq, Prod.mk.injEq] at h
      obtain ⟨-, rfl⟩ := h
      cases cs with
      | nil => simp [beginsFraction] at hc
      | cons c cs =>
        by_cases hd : c.isDigit
        · have := hdrop cs
          simp [hd]
          omega
        · simp_all
    · simp at h

/-- What follows a token is no longer than what followed its first
character. -/
theorem length_scan {c : Char} {cs rest : List Char} {t : Token}
    (h : scan c cs = .ok (t, rest)) : rest.length ≤ cs.length := by
  unfold scan at h
  split at h
  · simp_all
  · split at h
    · split at h
      · next hb =>
        have := length_stringBody? hb
        simp_all
        omega
      · simp at h
    · split at h
      · next hd =>
        have := length_number (by simpa using hd) h
        simp only [List.length_cons] at this
        omega
      · split at h
        · simp_all
        · split at h
          · simp only [Except.ok.injEq, Prod.mk.injEq] at h
            obtain ⟨-, rfl⟩ := h
            exact (List.dropWhile_suffix isWordChar).length_le
          · split at h
            · next hs =>
              have := length_symbol? hs
              simp_all
            · simp at h

-- ============================================================ all tokens

/-- The tokens of characters that begin at a byte offset. -/
def lexFrom (offset : Nat) (cs : List Char) : Except SyntaxError (List Lexeme) :=
  match cs with
  | [] => .ok []
  | c :: cs =>
    if Text.isAsciiBlank c then lexFrom (offset + c.utf8Size) cs
    else
      match _h : scan c cs with
      | .error fault => .error ⟨offset, fault⟩
      | .ok (token, rest) =>
        let size := byteLength (c :: cs) - byteLength rest
        (lexFrom (offset + size) rest).map (⟨offset, token⟩ :: ·)
termination_by cs.length
decreasing_by
  · simp
  · have := length_scan _h
    simp only [List.length_cons]
    omega

/-- The tokens of a text. -/
def lex (text : String) : Except SyntaxError (List Lexeme) :=
  lexFrom 0 text.toList

end Token

end DynamicSql
