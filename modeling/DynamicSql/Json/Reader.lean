/-
Values read from JSON texts.

A number written without fraction and exponent is an integer if 64 bits
hold it; every other number is the nearest float, and so is the integer
zero with a minus sign, which only a float can be. Of two entries of an
object with one key the later counts, in the place of the earlier.
-/
import DynamicSql.Number.Digits
import DynamicSql.Value.Basic

namespace DynamicSql.Json

def isSpace (c : Char) : Bool :=
  c == ' ' || c == '\t' || c == '\n' || c == '\r'

def skipSpace (cs : List Char) : List Char := cs.dropWhile isSpace

-- ============================================================== numbers

/-- A fraction after the digits of a number, without its point. -/
def fraction : List Char → List Char × List Char
  | '.' :: cs => (cs.takeWhile Char.isDigit, cs.dropWhile Char.isDigit)
  | cs => ([], cs)

/-- An exponent after a number. -/
def exponent? : List Char → Option Int × List Char
  | [] => (none, [])
  | c :: cs =>
    if c = 'e' ∨ c = 'E' then
      let (negative, cs) := match cs with
        | '-' :: cs => (true, cs)
        | '+' :: cs => (false, cs)
        | cs => (false, cs)
      let size : Int := digitsValue (cs.takeWhile Char.isDigit)
      (some (if negative then -size else size), cs.dropWhile Char.isDigit)
    else (none, c :: cs)

/-- The number that the characters begin with, and what follows it. -/
def number? (cs : List Char) : Option (Value × List Char) :=
  let (negative, cs) := match cs with
    | '-' :: cs => (true, cs)
    | cs => (false, cs)
  let whole := cs.takeWhile Char.isDigit
  if whole.isEmpty then none
  else
    let rest := cs.dropWhile Char.isDigit
    let pointed := rest.head? == some '.'
    let (parts, rest) := fraction rest
    let (scale, rest) := exponent? rest
    let mantissa := digitsValue (whole ++ parts)
    let size := nearestFloat mantissa (scale.getD 0 - parts.length)
    let asFloat := Value.float (if negative then -size else size)
    if pointed || scale.isSome || (negative && mantissa == 0) then some (asFloat, rest)
    else
      match Whole.ofInt? (if negative then -mantissa else mantissa) with
      | some i => some (.int i, rest)
      | none => some (asFloat, rest)

-- ============================================================== strings

/-- Four hexadecimal digits. -/
def hexUnit? : List Char → Option (Nat × List Char)
  | a :: b :: c :: d :: cs => do
    let a ← digitIn? 16 a
    let b ← digitIn? 16 b
    let c ← digitIn? 16 c
    let d ← digitIn? 16 d
    return (((a * 16 + b) * 16 + c) * 16 + d, cs)
  | _ => none

/-- The character of an escape by hexadecimal digits. One beyond the first
65536 is written as two halves. -/
def escapedUnit? (cs : List Char) : Option (Char × List Char) := do
  let (high, cs) ← hexUnit? cs
  if 0xD800 ≤ high ∧ high < 0xDC00 then
    match cs with
    | '\\' :: 'u' :: cs =>
      let (low, cs) ← hexUnit? cs
      if 0xDC00 ≤ low ∧ low < 0xE000 then
        return (Char.ofNat (0x10000 + (high - 0xD800) * 1024 + (low - 0xDC00)), cs)
      else none
    | _ => none
  else if 0xDC00 ≤ high ∧ high < 0xE000 then none
  else return (Char.ofNat high, cs)

def escapedLetter? : Char → Option Char
  | '"' => some '"'
  | '\\' => some '\\'
  | '/' => some '/'
  | 'b' => some '\x08'
  | 't' => some '\t'
  | 'n' => some '\n'
  | 'f' => some '\x0c'
  | 'r' => some '\r'
  | _ => none

/-- The content of a string up to its closing quote, and what follows the
quote. Each step takes at least one character, so as many steps as there
are characters suffice. -/
def stringBody? : (steps : Nat) → List Char → Option (List Char × List Char)
  | 0, _ => none
  | _, [] => none
  | _, '"' :: cs => some ([], cs)
  | steps + 1, '\\' :: 'u' :: cs => do
    let (c, cs) ← escapedUnit? cs
    let (body, rest) ← stringBody? steps cs
    return (c :: body, rest)
  | steps + 1, '\\' :: e :: cs => do
    let c ← escapedLetter? e
    let (body, rest) ← stringBody? steps cs
    return (c :: body, rest)
  | steps + 1, c :: cs => do
    let (body, rest) ← stringBody? steps cs
    return (c :: body, rest)

def string? (steps : Nat) (cs : List Char) : Option (String × List Char) :=
  (stringBody? steps cs).map fun (body, rest) => (String.ofList body, rest)

-- =============================================================== values

def literal? (word : String) (value : Value) (cs : List Char) :
    Option (Value × List Char) :=
  if word.toList.isPrefixOf cs then some (value, cs.drop word.length) else none

mutual

/-- The value that the characters begin with, and what follows it. Each
step takes at least one character, so a depth of as many steps as there are
characters is never used up. -/
def value? : (depth : Nat) → List Char → Option (Value × List Char)
  | 0, _ => none
  | depth + 1, cs =>
    match skipSpace cs with
    | '"' :: cs => (string? depth cs).map fun (s, rest) => (.string s, rest)
    | '[' :: cs =>
      match skipSpace cs with
      | ']' :: rest => some (.list [], rest)
      | cs => (items? depth cs).map fun (items, rest) => (.list items, rest)
    | '{' :: cs =>
      match skipSpace cs with
      | '}' :: rest => some (.map [], rest)
      | cs => (entries? depth cs).map fun (entries, rest) => (.map (Bindings.ofPairs entries), rest)
    | 'n' :: cs => literal? "ull" .null cs
    | 't' :: cs => literal? "rue" (.bool true) cs
    | 'f' :: cs => literal? "alse" (.bool false) cs
    | cs => number? cs

/-- Items up to the closing bracket, at least one. -/
def items? : (depth : Nat) → List Char → Option (List Value × List Char)
  | 0, _ => none
  | depth + 1, cs => do
    let (item, cs) ← value? depth cs
    match skipSpace cs with
    | ']' :: rest => return ([item], rest)
    | ',' :: cs =>
      let (items, rest) ← items? depth cs
      return (item :: items, rest)
    | _ => none

/-- Entries up to the closing brace, at least one. -/
def entries? : (depth : Nat) → List Char → Option (List (String × Value) × List Char)
  | 0, _ => none
  | depth + 1, cs =>
    match skipSpace cs with
    | '"' :: cs => do
      let (key, cs) ← string? depth cs
      match skipSpace cs with
      | ':' :: cs =>
        let (value, cs) ← value? depth cs
        match skipSpace cs with
        | '}' :: rest => return ([(key, value)], rest)
        | ',' :: cs =>
          let (entries, rest) ← entries? depth cs
          return ((key, value) :: entries, rest)
        | _ => none
      | _ => none
    | _ => none

end

/-- The value that a JSON text stands for. -/
def read? (text : String) : Option Value := do
  let cs := text.toList
  let (value, rest) ← value? (cs.length + 1) cs
  if (skipSpace rest).isEmpty then return value else none

end DynamicSql.Json
