/-
The machine of a pattern, and whether it fits.

A part is laid out, then what follows, and both are joined. A repetition is
written out: as many copies as are required, then as many that may be left
out, or a way back. What is written out may have no end in sight, so no copy
is laid out when there is no room left; the machine does not fit then,
however it would go on.

A pattern is laid out twice, to be read forward and backward, and must fit
both times. The machines differ: backward, sequences are laid out from their
ends, and groups take no room.
-/
import DynamicSql.Pattern.Basic
import DynamicSql.Pattern.Room.ByteTree
import DynamicSql.Pattern.Room.WordTree

namespace DynamicSql.Pattern

-- ================================================================ copies

/-- Goes on a number of times, as long as there is room. -/
def layTimes (lay : Laid → Laid) : Nat → Laid → Laid
  | 0, l => l
  | n + 1, l => if l.room.fits then layTimes lay n (lay l) else l

/-- Copies one after the other. -/
def layCopies (lay : Room → Laid) (n : Nat) (r : Room) : Laid :=
  layTimes (fun l => lay l.joined) n ⟨r, false⟩

/-- Goes past what has been laid out, or again to its beginning. -/
def layBack (l : Laid) : Laid := ⟨(l.joined.addStates 1).addLinks 1, true⟩

/-- At least a number of copies. Where a copy may match no characters, the
way back is apart from the way around. -/
def layAtLeast (lay : Room → Laid) (solid : Bool) (least : Nat) (r : Room) : Laid :=
  if 0 < least then layBack (layCopies lay least r)
  else if solid then
    ⟨(lay (r.addStates 1)).joined.addLinks 1, true⟩
  else ⟨((lay r).joined.addStates 3).addLinks 4, false⟩

/-- A copy that may be left out. -/
def layOptional (lay : Room → Laid) (l : Laid) : Laid :=
  let l := lay (l.joined.addStates 1)
  ⟨l.room.addLinks 2, l.branches⟩

/-- Between two numbers of copies. The copies that are not required all lead
to one state behind them. -/
def layBetween (lay : Room → Laid) (least most : Nat) (r : Room) : Laid :=
  if least = most then layCopies lay least r
  else if least = 0 ∧ most = 1 then
    ⟨((lay (r.addStates 1)).joined.addStates 1).addLinks 2, false⟩
  else
    let required := if least = 0 then ⟨r.addStates 1, false⟩ else layCopies lay least r
    let l := layTimes (layOptional lay) (most - least)
      ⟨required.room.addStates 1, required.branches⟩
    ⟨l.joined, false⟩

-- ========================================================== alternatives

/-- Where a pattern stands among alternatives: the state that branches to
them is laid out after the second. -/
inductive Standing where
  | alone
  | second
  | later
deriving DecidableEq, Repr, Inhabited

/-- Joins an alternative to the state that all lead to, and links it to the
one that branches. -/
def Standing.close : Standing → Laid → Laid
  | .alone, l => l
  | .second, l => ⟨(l.joined.addStates 2).addLinks 2, false⟩
  | .later, l => ⟨l.joined.addLinks 1, false⟩

/-- The words of alternatives that are all words. -/
def words? : Pattern → Option (List (List Nat))
  | .literal cs => some [Text.utf8Text cs]
  | .alt (.literal cs) rest => rest.words?.map fun words => Text.utf8Text cs :: words
  | _ => none

-- ============================================================== patterns

/-- Lays out a pattern. -/
def lay (d : Direction) : Pattern → Standing → Room → Laid
  | .empty, s, r => s.close ⟨r.addStates 1, false⟩
  | .literal cs, s, r => s.close ⟨r.addStates (Text.utf8Text cs).length, false⟩
  | .one _ set, s, r => s.close (laySet d set r)
  | .assertion _, s, r => s.close ⟨r.addStates 1, false⟩
  | .seq p q, s, r =>
    s.close (match d with
      | .forward => q.lay d .alone (p.lay d .alone r).joined
      | .backward => p.lay d .alone (q.lay d .alone r).joined)
  | .alt p q, .alone, r =>
    match (Pattern.alt p q).words? with
    | some words => layWords (if d = .forward then words else words.map List.reverse) r
    | none => q.lay d .second (p.lay d .alone r).joined
  | .alt p q, s, r => q.lay d .later (s.close (p.lay d .alone r)).room
  | .repeated p least most _, s, r =>
    let copy := fun r => p.lay d .alone r
    s.close (match most with
      | none => layAtLeast copy p.isSolid least r
      | some most => layBetween copy least most r)
  | .group _ p, s, r =>
    s.close (match d with
      | .forward => ⟨(p.lay d .alone (r.addStates 1)).joined.addStates 1, false⟩
      | .backward => p.lay d .alone r)

-- ================================================================= ends

/-- True if every match is at the end of the text where reading begins. -/
def isHeld (d : Direction) : Pattern → Bool
  | .assertion a => a = (match d with | .forward => .textStart | .backward => .textEnd)
  | .seq p q =>
    match d with
    | .forward => p.isHeld d || (p.isBlank && q.isHeld d)
    | .backward => q.isHeld d || (q.isBlank && p.isHeld d)
  | .alt p q => p.isHeld d && q.isHeld d
  | .repeated p least _ _ => 0 < least && p.isHeld d
  | .group _ p => p.isHeld d
  | _ => false

/-- The room before a pattern. If a match may begin anywhere, the machine can
pass over any bytes first. -/
def roomBefore (d : Direction) (p : Pattern) : Room :=
  if p.isHeld d then Room.none.addStates 1
  else ((Room.none.addStates 3).addLinks 2).addByteLinks 1

/-- The room of the whole machine, with the state that is reached by a
match. The pattern as a whole is a group. -/
def room (d : Direction) (p : Pattern) : Room :=
  ((Pattern.group 0 p).lay d .alone (roomBefore d p)).joined.addStates 1

/-- True of the patterns whose machines have room in both directions. -/
def fits (p : Pattern) : Bool := (p.room .forward).fits && (p.room .backward).fits

end DynamicSql.Pattern
