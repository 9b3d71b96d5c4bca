/-
What a pattern matches.

A text is read once, from left to right, and all ways to match it are gone at
the same time. Marks on the pattern say how far they have come: which parts
of it have been begun and wait for the next character. A mark goes on or goes
out at each character, and where two ways meet they are one from then on. So
there is nothing to take back, and the work at one character is bounded by
the pattern, not by the number of ways.

Marks stand only where at least one character of the part has been read.
Whether a part matches without any depends on nothing but the place, and is
asked there.

# Repetition

Rounds of a repetition that match no characters can be put in at will at a
place where there is such a match, and so need not be counted; the other
rounds are. Once such a place has been met, the least number of rounds is no
longer a matter, since it can be made up there. So there are two kinds of
rounds, those to which the least number still applies, and those that are
free of it. If there is no greatest number, then a round beyond the least
number is like the round at it.
-/
import DynamicSql.Pattern.Basic

namespace DynamicSql.Pattern

inductive Marks where
  /-- Nothing has been begun. -/
  | none
  /-- The one character has been read. -/
  | read
  /-- What is still to be read of a text, for each time it was begun. -/
  | rests (rests : List (List Char))
  /-- The marks on both parts of a sequence or alternative. -/
  | parts (first second : Marks)
  /-- The marks in each round, by the number of the round, in ascending
  order: of the rounds that count, and of those that are free. -/
  | rounds (counted free : List (Nat × Marks))
deriving Inhabited

namespace Marks

def isNone : Marks → Bool
  | .none => true
  | _ => false

def first : Marks → Marks
  | .parts m _ => m
  | _ => .none

def second : Marks → Marks
  | .parts _ m => m
  | _ => .none

/-- What is still to be read of a text. -/
def openRests : Marks → List (List Char)
  | .rests rs => rs
  | _ => []

def counted : Marks → List (Nat × Marks)
  | .rounds rs _ => rs
  | _ => []

def free : Marks → List (Nat × Marks)
  | .rounds _ rs => rs
  | _ => []

/-- Marks on two parts. -/
def both : Marks → Marks → Marks
  | .none, .none => .none
  | m, n => .parts m n

def ofRests : List (List Char) → Marks
  | [] => .none
  | rs => .rests rs

/-- The rounds in which something has been begun. -/
def ofRounds (counted free : List (Nat × Marks)) : Marks :=
  let going := fun rs : List (Nat × Marks) => rs.filter fun r => !r.2.isNone
  match going counted, going free with
  | [], [] => .none
  | rs, ss => .rounds rs ss

end Marks

-- ================================================================ rounds

/-- The number of the round after one, if there may be another. Without a
greatest number, numbers do not go beyond a limit. -/
def nextRound? (most : Option Nat) (limit n : Nat) : Option Nat :=
  match most with
  | some most => if n < most then some (n + 1) else none
  | none => some (min (n + 1) limit)

/-- Numbers in ascending order, from two lists of such. -/
def mergeNumbers (a b : List Nat) : List Nat := (a.merge b).eraseReps

/-- Goes on with rounds, of which some are entered. -/
def advance (go : Bool → Marks → Marks) : List Nat → List (Nat × Marks) → List (Nat × Marks)
  | [], [] => []
  | n :: ns, [] => (n, go true .none) :: advance go ns []
  | [], (k, m) :: rs => (k, go false m) :: advance go [] rs
  | n :: ns, (k, m) :: rs =>
    if n < k then (n, go true .none) :: advance go ns ((k, m) :: rs)
    else if k < n then (k, go false m) :: advance go (n :: ns) rs
    else (k, go true m) :: advance go ns rs
termination_by ns rs => ns.length + rs.length

-- =============================================================== matching

/-- True if a match can end at a place: one that has been begun, or one of no
characters, if the pattern may also be begun there. -/
def ends (place : Place) : Pattern → (begun : Bool) → Marks → Bool
  | .empty, begun, _ => begun
  | .literal cs, begun, m => (begun && cs.isEmpty) || m.openRests.any List.isEmpty
  | .one _ _, _, m => !m.isNone
  | .assertion a, begun, _ => begun && a.holds place
  | .seq p q, begun, m =>
    (begun || !m.isNone) && q.ends place (p.ends place begun m.first) m.second
  | .alt p q, begun, m =>
    (begun || !m.isNone) && (p.ends place begun m.first || q.ends place begun m.second)
  | .repeated p least _ _, begun, m =>
    (begun && (least == 0 || p.ends place true .none)) ||
      (m.counted.any fun r =>
        p.ends place false r.2 && (least ≤ r.1 || p.ends place true .none)) ||
      m.free.any fun r => p.ends place false r.2
  | .group _ p, begun, m => p.ends place begun m

/-- What is left of a text after a character that it begins with. -/
def afterChar (c : Char) : List Char → Option (List Char)
  | [] => none
  | d :: ds => if c = d then some ds else none

/-- Goes on at a place by the character after it. The pattern may also be
begun there. -/
def step (place : Place) (c : Char) : Pattern → (begun : Bool) → Marks → Marks
  | .empty, _, _ => .none
  | .literal cs, begun, m =>
    .ofRests ((if begun then cs :: m.openRests else m.openRests).filterMap (afterChar c))
  | .one _ set, begun, _ => if begun && set.mem c.toNat then .read else .none
  | .assertion _, _, _ => .none
  | .seq p q, begun, m =>
    if !begun && m.isNone then .none
    else
      .both (p.step place c begun m.first)
        (q.step place c (p.ends place begun m.first) m.second)
  | .alt p q, begun, m =>
    if !begun && m.isNone then .none
    else .both (p.step place c begun m.first) (q.step place c begun m.second)
  | .repeated p least most _, begun, m =>
    if !begun && m.isNone then .none
    else
      let blank := p.ends place true .none
      let ended := fun limit (rs : List (Nat × Marks)) =>
        rs.filterMap fun r => if p.ends place false r.2 then nextRound? most limit r.1 else none
      let start := if begun then (nextRound? most 1 0).toList else []
      let enterCounted :=
        if blank then [] else mergeNumbers start (ended (max least 1) m.counted)
      let enterFree :=
        if blank then mergeNumbers start (mergeNumbers (ended 1 m.counted) (ended 1 m.free))
        else (ended 1 m.free).eraseReps
      let go := fun begun m => p.step place c begun m
      .ofRounds (advance go enterCounted m.counted) (advance go enterFree m.free)
  | .group _ p, begun, m => p.step place c begun m

/-- Reads the rest of a text. A match may begin and end anywhere. -/
def matchesFrom (p : Pattern) (before : Option Char) (m : Marks) : List Char → Bool
  | [] => p.ends ⟨before, none⟩ true m
  | c :: cs =>
    let place := ⟨before, some c⟩
    if p.ends place true m then true
    else p.matchesFrom (some c) (p.step place c true m) cs

/-- True if the pattern matches some part of a text. -/
def isMatch (p : Pattern) (text : String) : Bool := p.matchesFrom none .none text.toList

end DynamicSql.Pattern
