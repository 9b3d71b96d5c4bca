/-
References in text and attribute values.

A reference is an ampersand, a name and a semicolon. Five names stand for
characters; a name that begins with a number sign gives a character by its
number, in decimal or, after a small x, in hexadecimal. Between the ampersand
and its semicolon there must not be another ampersand.

# What is assumed

References are replaced by the tokenizer that cuts the document, and it is
assumed to know the five names and no others, since names that a document type
declares are not looked at. A number is assumed to be one of 32 bits without a
sign that is that of a character and not zero. The first reference with
something wrong is what is complained of, and the order of the causes within it
is that of `characterOfNumber`.
-/
import DynamicSql.Number.Digits
import DynamicSql.Xml.Error

namespace DynamicSql.Xml

-- ================================================== characters by number

/-- The number that digits after the number `n` make. It must stay within
32 bits, and a character that is no digit is the first thing noticed. -/
def readNumber (base : Nat) (n : Nat) : List Char → Except CharacterFault Nat
  | [] => .ok n
  | c :: cs =>
    match digitIn? base c with
    | none => .error .invalidDigit
    | some d =>
      if n * base + d < 2 ^ 32 then readNumber base (n * base + d) cs else .error .tooLarge

/-- The number that digits make, at least one and without a sign. -/
def unsignedNumber (base : Nat) (cs : List Char) : Except CharacterFault Nat :=
  match cs with
  | [] => .error .noDigits
  | c :: _ => if c = '+' ∨ c = '-' then .error .unexpectedSign else readNumber base 0 cs

/-- The character that a number stands for. -/
def characterOfNumber (cs : List Char) : Except CharacterFault Char := do
  let n ← match cs with
    | 'x' :: hex => unsignedNumber 16 hex
    | _ => unsignedNumber 10 cs
  if n = 0 then throw .zero
  else if n.isValidChar then return Char.ofNat n
  else throw (.noCharacter n)

-- =========================================================== references

/-- The names that stand for characters. -/
def namedCharacter? : String → Option Char
  | "lt" => some '<'
  | "gt" => some '>'
  | "amp" => some '&'
  | "apos" => some '\''
  | "quot" => some '"'
  | _ => none

/-- The name of a reference and what follows its semicolon. -/
def referenceEnd? : List Char → Option (List Char × List Char)
  | [] => none
  | c :: cs =>
    if c = ';' then some ([], cs)
    else if c = '&' then none
    else (referenceEnd? cs).map fun (name, rest) => (c :: name, rest)

theorem length_referenceEnd? {cs name rest : List Char}
    (h : referenceEnd? cs = some (name, rest)) : rest.length < cs.length := by
  induction cs generalizing name rest with
  | nil => simp [referenceEnd?] at h
  | cons c cs ih =>
    unfold referenceEnd? at h
    split at h
    · simp_all
    · split at h
      · simp at h
      · obtain ⟨⟨a, b⟩, hab, he⟩ := Option.map_eq_some_iff.1 h
        have := ih hab
        simp_all
        omega

/-- The character of a reference whose name begins at a byte offset. -/
def resolve (offset : Nat) (name : List Char) : Except ReferenceFault Char :=
  match name with
  | '#' :: number =>
    match characterOfNumber number with
    | .ok c => .ok c
    | .error fault => .error (.character fault)
  | _ =>
    match namedCharacter? (String.ofList name) with
    | some c => .ok c
    | none =>
      .error (.unknownName ⟨offset, offset + byteLength name⟩ (String.ofList name))

/-- Replaces the references of characters that begin at a byte offset of a
text which is `stop` bytes long. -/
def unescapeFrom (stop offset : Nat) (cs : List Char) : Except ReferenceFault (List Char) :=
  match cs with
  | [] => .ok []
  | c :: cs =>
    if c = '&' then
      match _h : referenceEnd? cs with
      | none => .error (.unterminated ⟨offset, stop⟩)
      | some (name, rest) => do
        let character ← resolve (offset + 1) name
        let tail ← unescapeFrom stop (offset + 1 + byteLength name + 1) rest
        return character :: tail
    else (unescapeFrom stop (offset + c.utf8Size) cs).map (c :: ·)
termination_by cs.length
decreasing_by
  · have := length_referenceEnd? _h
    simp only [List.length_cons]
    omega
  · simp

/-- Replaces the references of a text. -/
def unescape (cs : List Char) : Except ReferenceFault String :=
  (unescapeFrom (byteLength cs) 0 cs).map String.ofList

end DynamicSql.Xml
