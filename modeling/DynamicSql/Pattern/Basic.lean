/-
Patterns.

A pattern is kept in a normal form, however it was written: nothing stands
beside an empty pattern, characters in a row are one text, a sequence hangs
to the right, and so do alternatives. The form is made in
`Pattern.Normal`; here is what it is made of.

Two things do not change what a pattern matches but are kept because they
tell one pattern from another: the number of a group, and whether a
repetition goes on as long as it can or stops as soon as it can.
-/
import DynamicSql.Pattern.CharSet

namespace DynamicSql

/-- A condition on a place in a text. -/
inductive Pattern.Assertion where
  | textStart
  | textEnd
  /-- After a line feed, or at the start. -/
  | lineStart
  | lineEnd
  /-- After a line break of either form, but not inside of one. -/
  | breakStart
  | breakEnd
  /-- Between a character of a set and one outside of it, the ends of the
  text being outside. -/
  | boundary (word : CharSet)
  | noBoundary (word : CharSet)
  | wordStart (word : CharSet)
  | wordEnd (word : CharSet)
  /-- Not after a character of the set. -/
  | wordStartHalf (word : CharSet)
  | wordEndHalf (word : CharSet)
deriving DecidableEq, Repr, Inhabited

inductive Pattern where
  /-- Matches nothing at all, everywhere. -/
  | empty
  /-- Characters in a row, at least one. -/
  | literal (cs : List Char)
  /-- One character of a set. Sets of ASCII and sets of Unicode are told
  apart by their kind, even if they hold the same. -/
  | one (ascii : Bool) (set : Pattern.CharSet)
  | assertion (a : Pattern.Assertion)
  | seq (first second : Pattern)
  | alt (first second : Pattern)
  /-- At least `least` times, and at most `most` times if that is given. -/
  | repeated (p : Pattern) (least : Nat) (most : Option Nat) (eager : Bool)
  /-- The groups are counted as they open. -/
  | group (number : Nat) (p : Pattern)
deriving DecidableEq, Repr, Inhabited

namespace Pattern

-- ================================================================ places

/-- A place in a text lies between two characters, either of which is missing
at an end. -/
structure Place where
  before : Option Char
  after : Option Char
deriving DecidableEq, Repr, Inhabited

/-- True if there is a character and the set holds it. -/
def CharSet.holds (set : CharSet) : Option Char → Bool
  | some c => set.mem c.toNat
  | none => false

def Assertion.holds (place : Place) : Assertion → Bool
  | .textStart => place.before.isNone
  | .textEnd => place.after.isNone
  | .lineStart => place.before.isNone || place.before == some '\n'
  | .lineEnd => place.after.isNone || place.after == some '\n'
  | .breakStart =>
    place.before.isNone || place.before == some '\n' ||
      (place.before == some '\r' && place.after != some '\n')
  | .breakEnd =>
    place.after.isNone || place.after == some '\r' ||
      (place.after == some '\n' && place.before != some '\r')
  | .boundary word => word.holds place.before != word.holds place.after
  | .noBoundary word => word.holds place.before == word.holds place.after
  | .wordStart word => !word.holds place.before && word.holds place.after
  | .wordEnd word => word.holds place.before && !word.holds place.after
  | .wordStartHalf word => !word.holds place.before
  | .wordEndHalf word => !word.holds place.after

-- ================================================================ length

/-- The least number of bytes of a match. None if a part can match
nothing whatever: then there may be no match. -/
def leastBytes? : Pattern → Option Nat
  | .empty => some 0
  | .literal cs => some (cs.foldl (fun n c => n + c.utf8Size) 0)
  | .one _ set => set.ranges.head?.map fun r => (Char.ofNat r.1).utf8Size
  | .assertion _ => some 0
  | .seq p q => do return (← p.leastBytes?) + (← q.leastBytes?)
  | .alt p q => do return min (← p.leastBytes?) (← q.leastBytes?)
  | .repeated p least _ _ => p.leastBytes?.map (· * least)
  | .group _ p => p.leastBytes?

/-- The greatest number of bytes of a match. None if there is no greatest,
and also if a part can match nothing whatever. -/
def mostBytes? : Pattern → Option Nat
  | .empty => some 0
  | .literal cs => some (cs.foldl (fun n c => n + c.utf8Size) 0)
  | .one _ set => set.ranges.getLast?.map fun r => (Char.ofNat r.2).utf8Size
  | .assertion _ => some 0
  | .seq p q => do return (← p.mostBytes?) + (← q.mostBytes?)
  | .alt p q => do return max (← p.mostBytes?) (← q.mostBytes?)
  | .repeated p _ most _ => do return (← p.mostBytes?) * (← most)
  | .group _ p => p.mostBytes?

/-- True of a pattern all of whose matches hold no characters. -/
def isBlank (p : Pattern) : Bool := p.mostBytes? == some 0

/-- True of a pattern all of whose matches hold characters. -/
def isSolid (p : Pattern) : Bool :=
  match p.leastBytes? with
  | some n => 0 < n
  | none => false

end Pattern

end DynamicSql
