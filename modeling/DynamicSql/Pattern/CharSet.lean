/-
Sets of characters, as the classes of patterns describe them.

A set is kept as ranges of codes: in order, and with a code between each two
of them. So one set has one list of ranges, and what the set is described
with does not show in it.

# The codes that are no characters

The codes from `D800` to `DFFF` belong to no character. A range may reach
across them, but none begins or ends there: the character after `D7FF` is
`E000`. Two ranges that end and begin at these two are apart although no
character is between them, and the complement takes the two characters
themselves for what is between.
-/
import DynamicSql.Pattern.CaseOrbit
import DynamicSql.Pattern.ClassTable
import DynamicSql.Text.CategoryTable

namespace DynamicSql.Pattern

structure CharSet where
  /-- First and last code of each range. -/
  ranges : List (Nat × Nat)
deriving DecidableEq, Repr, Inhabited

namespace CharSet

-- =============================================================== ranges

/-- The ranges, in order of their beginnings, after one that begins no
later: what meets or overlaps becomes one. -/
def joinAfter : Nat × Nat → List (Nat × Nat) → List (Nat × Nat)
  | r, [] => [r]
  | (first, last), (first', last') :: rest =>
    if first' ≤ last + 1 then joinAfter (first, max last last') rest
    else (first, last) :: joinAfter (first', last') rest

/-- The set of the codes in any ranges. -/
def ofRanges (ranges : List (Nat × Nat)) : CharSet :=
  match ranges.mergeSort fun a b => a.1 ≤ b.1 with
  | [] => ⟨[]⟩
  | r :: rest => ⟨joinAfter r rest⟩

/-- The ranges that a list of bounds gives. -/
def boundedRanges : List Nat → List (Nat × Nat)
  | first :: after :: rest => (first, after - 1) :: boundedRanges rest
  | _ => []

def ofBounds (bounds : List Nat) : CharSet := ⟨boundedRanges bounds⟩

/-- The codes from one to another, both included. -/
def range (first last : Nat) : CharSet := ⟨[(first, last)]⟩

/-- No characters. -/
def empty : CharSet := ⟨[]⟩

/-- The greatest code. -/
def greatest : Nat := 0x10FFFF

/-- All characters. -/
def all : CharSet := range 0 greatest

/-- One character. -/
def single (c : Char) : CharSet := range c.toNat c.toNat

/-- The characters of a list. -/
def ofList (cs : List Char) : CharSet := ofRanges (cs.map fun c => (c.toNat, c.toNat))

-- ============================================================== members

/-- True of a code in one of the ranges, which are in order. -/
def inRanges (n : Nat) : List (Nat × Nat) → Bool
  | [] => false
  | (first, last) :: rest => if n < first then false else n ≤ last || inRanges n rest

/-- True of the codes in a set. -/
def mem (s : CharSet) (n : Nat) : Bool := inRanges n s.ranges

/-- The character of a set that has no other. -/
def only? (s : CharSet) : Option Char :=
  match s.ranges with
  | [(first, last)] => if first = last then some (Char.ofNat first) else none
  | _ => none

/-- True of the sets of ASCII characters. -/
def isAscii (s : CharSet) : Bool := s.ranges.all fun r => r.2 < 0x80

-- =========================================================== operations

def union (a b : CharSet) : CharSet := ofRanges (a.ranges ++ b.ranges)

/-- What two lists of ranges have in common. -/
def interRanges : List (Nat × Nat) → List (Nat × Nat) → List (Nat × Nat)
  | [], _ => []
  | _, [] => []
  | (a, b) :: rs, (c, d) :: ss =>
    let common := if max a c ≤ min b d then [(max a c, min b d)] else []
    if b < d then common ++ interRanges rs ((c, d) :: ss)
    else common ++ interRanges ((a, b) :: rs) ss
termination_by rs ss => rs.length + ss.length

def inter (a b : CharSet) : CharSet := ⟨interRanges a.ranges b.ranges⟩

/-- The code of the character after one. -/
def after (n : Nat) : Nat := if n = 0xD7FF then 0xE000 else n + 1

/-- The code of the character before one. -/
def before (n : Nat) : Nat := if n = 0xE000 then 0xD7FF else n - 1

/-- What is in the ranges of the first list and in none of the second. -/
def diffRanges : List (Nat × Nat) → List (Nat × Nat) → List (Nat × Nat)
  | [], _ => []
  | rs, [] => rs
  | (a, b) :: rs, (c, d) :: ss =>
    if d < a then diffRanges ((a, b) :: rs) ss
    else if b < c then (a, b) :: diffRanges rs ((c, d) :: ss)
    else
      let lower := if a < c then [(a, before c)] else []
      if d < b then lower ++ diffRanges ((after d, b) :: rs) ss
      else lower ++ diffRanges rs ((c, d) :: ss)
termination_by rs ss => rs.length + ss.length

/-- The characters of one set that are not in another. -/
def diff (a b : CharSet) : CharSet := ⟨diffRanges a.ranges b.ranges⟩

/-- The characters of one of two sets that are not in the other. -/
def symmDiff (a b : CharSet) : CharSet := diff (union a b) (inter a b)

/-- What is between the ranges, and after them, that follow a code. -/
def gapsAfter (last : Nat) : List (Nat × Nat) → List (Nat × Nat)
  | [] => if last < greatest then [(after last, greatest)] else []
  | (first, next) :: rest =>
    (min (after last) (before first), max (after last) (before first)) :: gapsAfter next rest

def complement (s : CharSet) : CharSet :=
  match s.ranges with
  | [] => all
  | (first, last) :: rest =>
    ⟨(if 0 < first then [(0, before first)] else []) ++ gapsAfter last rest⟩

-- ================================================================= case

/-- The steps, in order, that begin in one of the ranges, by where they
lead. -/
def stepsFrom : List (Nat × Nat) → List (Nat × Nat) → List (Nat × Nat)
  | [], _ => []
  | _, [] => []
  | (first, last) :: rs, (n, next) :: steps =>
    if n < first then stepsFrom ((first, last) :: rs) steps
    else if n ≤ last then (next, next) :: stepsFrom ((first, last) :: rs) steps
    else stepsFrom rs ((n, next) :: steps)
termination_by rs steps => rs.length + steps.length

/-- The set with the next character of each orbit. -/
def stepOrbits (s : CharSet) : CharSet := ofRanges (s.ranges ++ stepsFrom s.ranges orbitSteps)

/-- The set with all characters that differ from its own in case alone. An
orbit has four characters at most, so three steps go round. -/
def folded (s : CharSet) : CharSet := s.stepOrbits.stepOrbits.stepOrbits

-- ======================================================== named classes

/-- The characters of ASCII. -/
def ascii : CharSet := range 0 0x7F

/-- The codes between those of two characters, both included. -/
def between (first last : Char) : CharSet := range first.toNat last.toNat

def asciiDigit : CharSet := between '0' '9'

def asciiUpper : CharSet := between 'A' 'Z'

def asciiLower : CharSet := between 'a' 'z'

def asciiAlpha : CharSet := union asciiUpper asciiLower

def asciiAlnum : CharSet := union asciiAlpha asciiDigit

/-- The characters of words in ASCII. -/
def asciiWord : CharSet := union asciiAlnum (single '_')

/-- Space and the controls from tab to carriage return. -/
def asciiSpace : CharSet := union (single ' ') (between '\t' '\r')

/-- The characters of words. -/
def word : CharSet := ofBounds wordBounds

/-- Decimal digits. -/
def digit : CharSet := ofBounds Text.Category.decimalNumber

/-- Blank characters. -/
def space : CharSet := ofBounds blankBounds

/-- A class of ASCII by its name between brackets and colons. -/
def asciiNamed? : String → Option CharSet
  | "alnum" => some asciiAlnum
  | "alpha" => some asciiAlpha
  | "ascii" => some ascii
  | "blank" => some (ofList [' ', '\t'])
  | "cntrl" => some (union (range 0 0x1F) (range 0x7F 0x7F))
  | "digit" => some asciiDigit
  | "graph" => some (between '!' '~')
  | "lower" => some asciiLower
  | "print" => some (between ' ' '~')
  | "punct" => some (diff (between '!' '~') asciiAlnum)
  | "space" => some asciiSpace
  | "upper" => some asciiUpper
  | "word" => some asciiWord
  | "xdigit" => some (union asciiDigit (union (between 'A' 'F') (between 'a' 'f')))
  | _ => none

end CharSet

end DynamicSql.Pattern
