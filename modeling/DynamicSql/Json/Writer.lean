/-
Values as JSON texts, written without spaces.

Only what JSON demands is escaped: the quote, the backslash and the control
characters, these by a letter where there is one and otherwise by four
hexadecimal digits. Every other character stands for itself.
-/
import DynamicSql.Number.Layout
import DynamicSql.Value.Basic

namespace DynamicSql.Json

-- ============================================================== strings

def hexDigit (n : Nat) : Char :=
  if n < 10 then Char.ofNat (48 + n) else Char.ofNat (87 + n)

/-- A character as it stands between the quotes of a JSON string. -/
def escapeChar (c : Char) : List Char :=
  match c with
  | '"' => ['\\', '"']
  | '\\' => ['\\', '\\']
  | '\x08' => ['\\', 'b']
  | '\t' => ['\\', 't']
  | '\n' => ['\\', 'n']
  | '\x0c' => ['\\', 'f']
  | '\r' => ['\\', 'r']
  | c =>
    if c.toNat < 0x20 then
      ['\\', 'u', '0', '0', hexDigit (c.toNat / 16), hexDigit (c.toNat % 16)]
    else [c]

def quote (s : String) : String :=
  String.ofList ('"' :: s.toList.flatMap escapeChar ++ ['"'])

-- =============================================================== values

mutual

/-- The JSON text of a value. A float that is not a number is null. -/
def write : Value → String
  | .null => "null"
  | .bool b => if b then "true" else "false"
  | .int i => Whole.text i
  | .float x => Layout.json.text x
  | .string s => quote s
  | .list items => "[" ++ writeItems items ++ "]"
  | .map entries => "\x7b" ++ writeEntries entries ++ "\x7d"

def writeItems : List Value → String
  | [] => ""
  | [item] => write item
  | item :: rest => write item ++ "," ++ writeItems rest

def writeEntries : List (String × Value) → String
  | [] => ""
  | [(key, value)] => quote key ++ ":" ++ write value
  | (key, value) :: rest => quote key ++ ":" ++ write value ++ "," ++ writeEntries rest

end

end DynamicSql.Json
