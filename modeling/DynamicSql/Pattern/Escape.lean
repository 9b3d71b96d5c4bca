/-
What a backslash stands for in a pattern.

A punctuation character stands for itself. Letters have meanings of their
own or none; digits would refer back to groups, which patterns cannot do.
-/
import DynamicSql.Number.Digits
import DynamicSql.Pattern.Basic
import DynamicSql.Pattern.Flags
import DynamicSql.Pattern.Property

namespace DynamicSql.Pattern

inductive Escape where
  | char (c : Char)
  | set (s : CharSet)
  | assertion (a : Assertion)
deriving DecidableEq, Repr, Inhabited

-- ============================================================== classes

/-- A set as it is under the flags: with the other cases, if case is ignored.
Without Unicode, only the letters of ASCII have cases. -/
def Flags.fold (f : Flags) (s : CharSet) : CharSet :=
  if f.ignoresCase then if f.unicode then s.folded else .inter s.folded .ascii else s

/-- The set or its complement. Without Unicode there is no complement, since
it would hold bytes that are no characters. -/
def Flags.negate? (f : Flags) (negated : Bool) (s : CharSet) : Option CharSet :=
  if negated then if f.unicode then some s.complement else none else some s

/-- The characters of words. -/
def Flags.word (f : Flags) : CharSet := if f.unicode then .word else .asciiWord

/-- The classes that one letter stands for. Its upper case stands for the
complement. -/
def Flags.letterClass? (f : Flags) : Char → Option CharSet
  | 'd' => some (if f.unicode then .digit else .asciiDigit)
  | 's' => some (if f.unicode then .space else .asciiSpace)
  | 'w' => some f.word
  | 'D' => f.negate? true .digit
  | 'S' => f.negate? true .space
  | 'W' => f.negate? true .word
  | _ => none

-- =========================================================== properties

/-- Reads the description of a set of Unicode, in braces or of one
letter. -/
def Flags.readDescribed (f : Flags) (negated : Bool) (cs : List Char) :
    Option (Escape × List Char) := do
  guard f.unicode
  let (differs, set, rest) ← match f.skip cs with
    | [] => none
    | '\x7b' :: rest => do
      let (description, rest) ← f.braced rest
      let (differs, set) ← describedSet? description
      pure (differs, set, rest)
    | c :: rest => (namedSet? [c]).map fun set => (false, set, rest)
  let set ← f.negate? (negated != differs) (f.fold set)
  return (.set set, rest)

-- =================================================== characters by code

/-- The character whose code some hexadecimal digits give. -/
def hexChar? (digits : List Char) : Option Char := do
  let values ← digits.mapM (digitIn? 16)
  let n := values.foldl (fun n d => 16 * n + d) 0
  if values.isEmpty || !n.isValidChar then none else some (Char.ofNat n)

/-- A number of characters, and the rest after them. -/
def Flags.take (f : Flags) : Nat → List Char → Option (List Char × List Char)
  | 0, cs => some ([], cs)
  | n + 1, cs =>
    match f.skip cs with
    | [] => none
    | c :: rest => (f.take n rest).map fun (taken, rest) => (c :: taken, rest)

/-- Reads a code of so many digits, or of any number in braces. Without
Unicode, two digits stand for a byte, and not every byte is a character. -/
def Flags.readCode (f : Flags) (digits : Nat) (cs : List Char) : Option (Escape × List Char) := do
  match f.skip cs with
  | '\x7b' :: rest =>
    let (written, rest) ← f.braced rest
    let c ← hexChar? written
    return (.char c, rest)
  | other =>
    let (written, rest) ← f.take digits other
    let c ← hexChar? written
    guard (f.unicode || digits != 2 || c.toNat < 128)
    return (.char c, rest)

-- ============================================================ assertions

/-- A condition on words by its name. -/
def namedBoundary? (word : CharSet) : String → Option Assertion
  | "start" => some (.wordStart word)
  | "end" => some (.wordEnd word)
  | "start-half" => some (.wordStartHalf word)
  | "end-half" => some (.wordEndHalf word)
  | _ => none

/-- Reads what may follow the letter for a boundary: the name of a more
special one. A brace before anything but a letter or a dash is a
repetition. -/
def Flags.readBoundary (f : Flags) (cs : List Char) : Option (Escape × List Char) :=
  let plain : Escape := .assertion (.boundary f.word)
  match cs with
  | '\x7b' :: rest =>
    match f.skip rest with
    | [] => none
    | c :: _ =>
      if c.isAlpha || c == '-' then do
        let (name, rest) ← f.braced rest
        let a ← namedBoundary? f.word (String.ofList name)
        return (.assertion a, rest)
      else some (plain, cs)
  | _ => some (plain, cs)

-- ============================================================== escapes

/-- The control characters that letters stand for. -/
def controlChar? : Char → Option Char
  | 'a' => some '\x07'
  | 'f' => some '\x0c'
  | 't' => some '\t'
  | 'n' => some '\n'
  | 'r' => some '\r'
  | 'v' => some '\x0b'
  | _ => none

/-- The assertions that characters stand for. -/
def Flags.letterAssertion? (f : Flags) : Char → Option Assertion
  | 'A' => some .textStart
  | 'z' => some .textEnd
  | 'B' => some (.noBoundary f.word)
  | '<' => some (.wordStart f.word)
  | '>' => some (.wordEnd f.word)
  | _ => none

/-- True of the characters that stand for themselves: those of ASCII that
are no letters, digits or angle brackets. -/
def standsForItself (c : Char) : Bool :=
  c.toNat < 128 && !c.isAlphanum && c != '<' && c != '>'

/-- Reads what stands after a backslash. -/
def Flags.readEscape (f : Flags) : List Char → Option (Escape × List Char)
  | [] => none
  | 'x' :: rest => f.readCode 2 rest
  | 'u' :: rest => f.readCode 4 rest
  | 'U' :: rest => f.readCode 8 rest
  | 'p' :: rest => f.readDescribed false rest
  | 'P' :: rest => f.readDescribed true rest
  | 'b' :: rest => f.readBoundary rest
  | c :: rest =>
    if standsForItself c then some (.char c, rest)
    else
      match f.letterClass? c, controlChar? c, f.letterAssertion? c with
      | some s, _, _ => some (.set s, rest)
      | _, some c, _ => some (.char c, rest)
      | _, _, some a => some (.assertion a, rest)
      | _, _, _ => none

end DynamicSql.Pattern
