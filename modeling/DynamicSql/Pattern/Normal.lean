/-
The normal form of patterns.

Each function here puts patterns in normal form together to one. What has the
same meaning need not get the same form, but some of what is written
differently does: a set of one character is that character, alternatives of
one character each are a set, and what all alternatives begin with stands
before them once.

# Common beginnings

Alternatives that all begin with the same items are split into these and the
rests. What is left of them needs no second look. If every rest is a
sequence, they do not all begin with the same item, or it would have been
split off. If one of them is itself made of alternatives, these have already
been looked at.
-/
import DynamicSql.Pattern.Basic

namespace DynamicSql.Pattern

-- ================================================================= sets

/-- What matches nothing whatever. -/
def nothing : Pattern := .one true .empty

/-- One character of a set. -/
def ofSet (ascii : Bool) (set : CharSet) : Pattern :=
  match set.ranges, set.only? with
  | [], _ => nothing
  | _, some c => .literal [c]
  | _, none => .one ascii set

-- ============================================================= sequences

/-- The parts of a sequence. -/
def items : Pattern → List Pattern
  | .empty => []
  | .seq first rest => first :: rest.items
  | p => [p]

/-- Puts an item before others. Two texts become one. -/
def consItem : Pattern → List Pattern → List Pattern
  | .empty, rest => rest
  | .literal cs, .literal ds :: rest => .literal (cs ++ ds) :: rest
  | p, rest => p :: rest

/-- The sequence of items of which none is a sequence. -/
def ofItems : List Pattern → Pattern
  | [] => .empty
  | [p] => p
  | p :: rest => .seq p (ofItems rest)

/-- One pattern after the other. -/
def sequence (ps : List Pattern) : Pattern :=
  ofItems ((ps.flatMap items).foldr consItem [])

-- ========================================================== alternatives

/-- The alternatives of a pattern. -/
def choices : Pattern → List Pattern
  | .alt first rest => first :: rest.choices
  | p => [p]

def ofChoices : List Pattern → Pattern
  | [] => nothing
  | [p] => p
  | p :: rest => .alt p (ofChoices rest)

/-- The character of a pattern that matches that alone. -/
def char? : Pattern → Option Char
  | .literal [c] => some c
  | _ => none

/-- The set of a pattern that matches one character of it. -/
def set? : Pattern → Option CharSet
  | .one _ set => some set
  | _ => none

/-- The set that alternatives stand for: all are characters, or all are
sets. -/
def sharedSet? (ps : List Pattern) : Option CharSet :=
  match ps.mapM char? with
  | some cs => some (.ofList cs)
  | none => (ps.mapM set?).map fun sets => .ofRanges (sets.flatMap CharSet.ranges)

/-- Alternatives, whatever they begin with. -/
def unsplit (ps : List Pattern) : Pattern :=
  match ps.flatMap choices with
  | [p] => p
  | ps =>
    match sharedSet? ps with
    | some set => ofSet false set
    | none => ofChoices ps

/-- The items that two lists begin with. -/
def commonItems : List Pattern → List Pattern → List Pattern
  | p :: ps, q :: qs => if p = q then p :: commonItems ps qs else []
  | _, _ => []

/-- The items that all alternatives begin with. One that is no sequence has
none to share. -/
def sharedItems : List Pattern → List Pattern
  | [] => []
  | p :: ps =>
    if (p :: ps).all fun p => 2 ≤ p.items.length then
      ps.foldl (fun common p => commonItems common p.items) p.items
    else []

/-- One of the alternatives. -/
def oneOf (ps : List Pattern) : Pattern :=
  match unsplit ps with
  | .alt p rest =>
    let ps := p :: rest.choices
    match sharedItems ps with
    | [] => .alt p rest
    | shared =>
      sequence (shared ++ [unsplit (ps.map fun p => sequence (p.items.drop shared.length))])
  | p => p

-- ============================================================ repetition

/-- A pattern a number of times. One that matches no characters matches them
once or not at all. -/
def times (p : Pattern) (least : Nat) (most : Option Nat) (eager : Bool) : Pattern :=
  let blank := p.isBlank
  let least := if blank then min least 1 else least
  let most := if blank then some (min (most.getD 1) 1) else most
  if least = 0 ∧ most = some 0 then .empty
  else if least = 1 ∧ most = some 1 then p
  else .repeated p least most eager

end DynamicSql.Pattern
