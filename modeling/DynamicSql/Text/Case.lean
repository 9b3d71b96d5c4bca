/-
Upper and lower case of any text.

The mappings are the full ones of Unicode: one character may become
several, as the German sharp s does in upper case. They depend on nothing
but the character, with one exception. The Greek capital sigma has two small
forms, and which one is right depends on where it stands: at the end of a
word, that is, with a cased character before it and none after it, where
characters that case does not concern are looked through on both sides.
-/
import DynamicSql.Text.CaseTable

namespace DynamicSql.Text

/-- True if the number of bounds at or below `n` is odd, `inside` telling
how it stands with the bounds already passed. -/
def withinBounds (inside : Bool) : List Nat → Nat → Bool
  | [], _ => inside
  | bound :: rest, n => if n < bound then inside else withinBounds (!inside) rest n

/-- True of the characters that have a case. -/
def isCased (c : Char) : Bool := withinBounds false casedBounds c.toNat

/-- True of the characters that are looked through when the case of their
neighbours is asked. -/
def isCaseIgnorable (c : Char) : Bool := withinBounds false caseIgnorableBounds c.toNat

/-- The image of a character under the first range that holds it. -/
def imageIn? : List CaseRange → Nat → Option Nat
  | [], _ => none
  | r :: rest, n =>
    if r.first ≤ n ∧ n ≤ r.last ∧ (n - r.first) % r.step = 0 then some (r.image + (n - r.first))
    else imageIn? rest n

/-- A character mapped by sequences and ranges; itself, if neither knows
it. -/
def mapCase (sequences : List (Nat × List Nat)) (ranges : List CaseRange) (c : Char) : List Char :=
  match sequences.lookup c.toNat with
  | some ns => ns.map Char.ofNat
  | none =>
    match imageIn? ranges c.toNat with
    | some n => [Char.ofNat n]
    | none => [c]

def upperChar (c : Char) : List Char := mapCase upperSequences upperRanges c

def lowerChar (c : Char) : List Char := mapCase lowerSequences lowerRanges c

/-- True if the nearest character that case concerns has a case. -/
def meetsCased (cs : List Char) : Bool :=
  match cs.dropWhile isCaseIgnorable with
  | [] => false
  | c :: _ => isCased c

/-- The small sigma between the characters before it, the nearest first, and
those after it. -/
def smallSigma (before after : List Char) : Char :=
  if meetsCased before && !meetsCased after then 'ς' else 'σ'

/-- Lower case of characters that stand after others, of which the nearest
comes first. -/
def lowerAfter (before : List Char) : List Char → List Char
  | [] => []
  | c :: cs =>
    (if c = 'Σ' then [smallSigma before cs] else lowerChar c) ++ lowerAfter (c :: before) cs

def toUpper (s : String) : String := String.ofList (s.toList.flatMap upperChar)

def toLower (s : String) : String := String.ofList (lowerAfter [] s.toList)

end DynamicSql.Text
