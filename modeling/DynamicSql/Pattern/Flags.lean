/-
What changes how a pattern is read, and what is passed over between its
parts.

A flag is set for the rest of the group that it stands in, also beyond the
next bar. With blanks ignored, blanks and comments may stand between any two
parts of a pattern; elsewhere there is nothing to pass over.
-/
import DynamicSql.Text.Blank

namespace DynamicSql.Pattern

structure Flags where
  ignoresCase : Bool
  /-- The line assertions hold at each line, not only at the ends. -/
  perLine : Bool
  /-- The dot matches line feeds too. -/
  dotIsAll : Bool
  /-- A carriage return is part of a line break. -/
  carriageReturns : Bool
  /-- Classes are those of Unicode, not of ASCII. -/
  unicode : Bool
  ignoresBlanks : Bool
  /-- Repetitions stop as soon as they can, unless they are marked. -/
  stopsSoon : Bool
deriving DecidableEq, Repr, Inhabited

namespace Flags

def standard : Flags := ⟨false, false, false, false, true, false, false⟩

/-- The letters of flags. -/
def letters : List Char := ['i', 'm', 's', 'R', 'u', 'x', 'U']

/-- Sets or unsets the flag of a letter. -/
def set (f : Flags) (on : Bool) : Char → Flags
  | 'i' => { f with ignoresCase := on }
  | 'm' => { f with perLine := on }
  | 's' => { f with dotIsAll := on }
  | 'R' => { f with carriageReturns := on }
  | 'u' => { f with unicode := on }
  | 'x' => { f with ignoresBlanks := on }
  | 'U' => { f with stopsSoon := on }
  | _ => f

/-- Sets the flags of letters, and unsets those after a minus. -/
def setAll (f : Flags) (on : Bool) : List Char → Flags
  | [] => f
  | c :: cs => if c = '-' then f.setAll false cs else (f.set on c).setAll on cs

/-- True of flags as they may be written: each letter once, and one minus at
most, which is not the last. -/
def wellWritten (items : List Char) : Bool :=
  decide items.Nodup && items.all (fun c => c == '-' || letters.contains c) &&
    items.getLast? != some '-'

/-- The rest of a pattern after blanks and comments; a comment ends with its
line. -/
def skipBlanks (inComment : Bool) : List Char → List Char
  | [] => []
  | c :: cs =>
    if inComment then skipBlanks (c != '\n') cs
    else if Text.isBlank c then skipBlanks false cs
    else if c = '#' then skipBlanks true cs
    else c :: cs

theorem length_skipBlanks_le (inComment : Bool) (cs : List Char) :
    (skipBlanks inComment cs).length ≤ cs.length := by
  induction cs generalizing inComment with
  | nil => simp [skipBlanks]
  | cons c cs ih =>
    unfold skipBlanks
    have h := fun b => Nat.le_succ_of_le (ih b)
    split
    · exact h _
    · split
      · exact h _
      · split
        · exact h _
        · exact Nat.le_refl _

/-- The rest of a pattern after what is passed over. -/
def skip (f : Flags) (cs : List Char) : List Char :=
  if f.ignoresBlanks then skipBlanks false cs else cs

theorem length_skip_le (f : Flags) (cs : List Char) : (f.skip cs).length ≤ cs.length := by
  unfold skip
  split
  · exact length_skipBlanks_le _ _
  · exact Nat.le_refl _

theorem length_lt_of_skip {f : Flags} {cs rest : List Char} {c : Char}
    (h : f.skip cs = c :: rest) : rest.length < cs.length := by
  have := f.length_skip_le cs
  rw [h] at this
  exact this

/-- The characters up to a closing brace, and the rest after it. -/
def braced (f : Flags) (cs : List Char) : Option (List Char × List Char) :=
  match h : f.skip cs with
  | [] => none
  | c :: rest =>
    have := length_lt_of_skip h
    if c = '\x7d' then some ([], rest)
    else (f.braced rest).map fun (inside, rest) => (c :: inside, rest)
termination_by cs.length

/-- The characters of a class as long as they come, and the rest after them
and after what is passed over. -/
def run (f : Flags) (p : Char → Bool) (cs : List Char) : List Char × List Char :=
  match h : f.skip cs with
  | [] => ([], [])
  | c :: rest =>
    have := length_lt_of_skip h
    if p c then
      let (inside, rest) := f.run p rest
      (c :: inside, rest)
    else ([], c :: rest)
termination_by cs.length

/-- The character that follows when blanks are passed over. A number sign is
passed over with them, but not what follows it. -/
def peek (f : Flags) (cs : List Char) : Option Char :=
  if f.ignoresBlanks then
    match cs.dropWhile Text.isBlank with
    | [] => cs.head?
    | c :: rest =>
      if c = '#' then
        match rest.dropWhile Text.isBlank with
        | [] => cs.head?
        | c :: _ => some c
      else some c
  else cs.head?

end Flags

end DynamicSql.Pattern
